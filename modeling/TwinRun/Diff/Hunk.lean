import TwinRun.Diff.Script
import TwinRun.Text.Lossy

/-!
Hunks: the changes of an edit script with some unchanged lines around them.

The places of the changes are grouped (`Span.group`): two neighbouring changes share a
span unless more than twice the context lies between them. Each span, widened by the
context on both sides and cut off at the ends of the script, is one hunk. Its line numbers
come from counting how many lines of either side stand before each edit.
-/

namespace TwinRun

inductive LineKind where
  | context
  | removed
  | added
  deriving DecidableEq, Repr

def LineKind.mark : LineKind → Char
  | .context => ' '
  | .removed => '-'
  | .added => '+'

structure DiffLine where
  kind : LineKind
  text : String
  /-- The line is the last of its side and has no line feed. -/
  missingNewline : Bool
  deriving DecidableEq, Repr

/-- A stretch of the script with the line ranges it covers on either side. -/
structure Hunk where
  oldStart : Nat
  oldLength : Nat
  newStart : Nat
  newLength : Nat
  lines : List DiffLine
  deriving DecidableEq, Repr

/-- A line range as text: the length is left out where it is one. -/
def Hunk.range (start length : Nat) : String :=
  if length = 1 then Decimal.text start
  else Decimal.text start ++ "," ++ Decimal.text length

def Hunk.header (h : Hunk) : String :=
  "@@ -" ++ range h.oldStart h.oldLength ++ " +" ++ range h.newStart h.newLength ++ " @@"

/-! ### Spans of changes -/

/-- The first and the last change of a group, as places in the script. -/
structure Span where
  first : Nat
  last : Nat
  deriving DecidableEq, Repr

/-- Whether a change at `place` is near enough to join the span before it. -/
def Span.reaches (context : Nat) (s : Span) (place : Nat) : Bool :=
  place - s.last - 1 ≤ 2 * context

/-- Groups places, given in increasing order, into spans. -/
def Span.group (context : Nat) : (places : List Nat) → List Span
  | [] => []
  | place :: places =>
      let (done, current) := places.foldl (fun (done, current) place =>
        if Span.reaches context current place then (done, { current with last := place })
        else (current :: done, ⟨place, place⟩)) (([] : List Span), (⟨place, place⟩ : Span))
      (current :: done).reverse

def changePlaces (script : List (Edit Line)) : List Nat :=
  script.zipIdx.filterMap (fun (edit, place) => if edit.isChange then some place else none)

/-- A stretch of the script: from `start` up to but without `stop`. -/
structure Window where
  start : Nat
  stop : Nat
  deriving DecidableEq, Repr

/-- The span with its context, inside a script of the given length. -/
def Span.window (context length : Nat) (s : Span) : Window :=
  ⟨s.first - context, min (s.last + context + 1) length⟩

/-! ### Line numbers -/

/-- For every place, the end included, how many of the edits before it satisfy `counts`. -/
def countsBefore (counts : Edit Line → Bool) (script : List (Edit Line)) : Array Nat :=
  let (before, total) := script.foldl (fun (before, total) edit =>
    (before.push total, if counts edit then total + 1 else total))
    (Array.emptyWithCapacity (script.length + 1), 0)
  before.push total

/-- Where a range is said to start: at its first line, counting from one, or at the line
before it when it is empty. -/
def rangeStart (before length : Nat) : Nat := if length = 0 then before else before + 1

def DiffLine.ofEdit : Edit Line → DiffLine
  | .equal line => ⟨.context, line.text.lossy, !line.terminated⟩
  | .delete line => ⟨.removed, line.text.lossy, !line.terminated⟩
  | .insert line => ⟨.added, line.text.lossy, !line.terminated⟩

/-- A script with the line counts that number its hunks. -/
structure NumberedScript where
  edits : Array (Edit Line)
  oldBefore : Array Nat
  newBefore : Array Nat

/-- Counts the lines of both sides before every edit. -/
def NumberedScript.ofScript (script : List (Edit Line)) : NumberedScript :=
  { edits := script.toArray
    oldBefore := countsBefore (fun edit => edit.old?.isSome) script
    newBefore := countsBefore (fun edit => edit.new?.isSome) script }

def NumberedScript.hunk (s : NumberedScript) (w : Window) : Hunk :=
  let oldBefore := s.oldBefore.getD w.start 0
  let newBefore := s.newBefore.getD w.start 0
  let oldLength := s.oldBefore.getD w.stop 0 - oldBefore
  let newLength := s.newBefore.getD w.stop 0 - newBefore
  { oldStart := rangeStart oldBefore oldLength
    oldLength
    newStart := rangeStart newBefore newLength
    newLength
    lines := ((s.edits.extract w.start w.stop).toList).map DiffLine.ofEdit }

/-- The windows of a script that are shown. -/
def windows (script : List (Edit Line)) (context : Nat) : List Window :=
  (Span.group context (changePlaces script)).map (Span.window context script.length)

def Hunk.ofScript (script : List (Edit Line)) (context : Nat) : List Hunk :=
  let numbered := NumberedScript.ofScript script
  (windows script context).map numbered.hunk

/-- The line diff of two byte strings as hunks with `context` unchanged lines around the
changes. Two lines are equal only if their bytes and their line feeds are. -/
def diff (old new : Bytes) (context : Nat) : List Hunk :=
  Hunk.ofScript (Script.ofLines (Line.split old) (Line.split new)) context

end TwinRun
