import TwinRun.ExitStatus
import TwinRun.Stage
import TwinRun.SystemError
import TwinRun.Text.Alphanumeric
import TwinRun.Text.Blank
import TwinRun.Text.RegexSyntax

/-!
What the harness tells about its work.

An event has a level, an origin, which is the part of the harness it comes from, and fields.
A filter says which events are shown. It is given by the number of `-v` flags, or by
directives that name origins, fields and levels; of several that apply to an event the most
specific one counts.
-/

namespace TwinRun.Log

inductive Level where
  | error
  | warn
  | info
  | debug
  | trace
  deriving DecidableEq, Repr

namespace Level

/-- More is shown at a higher rank. -/
def rank : Level → Nat
  | error => 1
  | warn => 2
  | info => 3
  | debug => 4
  | trace => 5

def name : Level → String
  | error => "ERROR"
  | warn => "WARN"
  | info => "INFO"
  | debug => "DEBUG"
  | trace => "TRACE"

def all : List Level := [error, warn, info, debug, trace]

end Level

/-- How a stage ended, as far as the log tells it apart. -/
inductive StageEnd where
  | succeeded
  | failed (status : ExitStatus)
  | notStarted (reason : String)
  deriving DecidableEq, Repr

inductive Event where
  | buildStarted (program : String) (dir : Path)
  | buildSkipped
  | scratchCleared (scratch : Path) (removed : Nat)
  | directoryAbsent (dir : Path)
  | entrySkipped (dir : Path) (reason : String)
  | directoryScanned (dir : Path) (found : Nat)
  | runStarted (mode : Mode) (cases : Nat)
  | stageEnded (caseName : String) (side : Side) (stage : Mode) (ending : StageEnd)
  | runComplete (cases diverged : Nat)
  deriving DecidableEq, Repr

namespace Event

def level : Event → Level
  | buildStarted .. | runStarted .. | runComplete .. => .info
  | entrySkipped .. => .warn
  | stageEnded _ _ _ .succeeded => .debug
  | stageEnded .. => .info
  | buildSkipped | scratchCleared .. | directoryAbsent _ | directoryScanned .. => .debug

/-- The part of the harness that an event comes from. -/
def origin : Event → String
  | buildStarted .. => "frontdiff::build"
  | scratchCleared .. => "frontdiff::capture"
  | directoryAbsent _ | entrySkipped .. | directoryScanned .. => "frontdiff::corpus"
  | stageEnded .. => "frontdiff::pipeline"
  | buildSkipped | runStarted .. | runComplete .. => "frontdiff::driver"

/-- What is said, and about what. -/
def content : Event → String × List (String × String)
  | buildStarted program dir =>
      ("building candidate", [("program", program), ("dir", dir.display)])
  | buildSkipped => ("build step skipped", [])
  | scratchCleared scratch removed =>
      ("scratch directory cleared",
        [("scratch", scratch.display), ("removed", Decimal.text removed)])
  | directoryAbsent dir => ("case directory not present", [("dir", dir.display)])
  | entrySkipped dir reason =>
      ("skipping unreadable case directory entry", [("dir", dir.display), ("error", reason)])
  | directoryScanned dir found =>
      ("scanned case directory", [("dir", dir.display), ("found", Decimal.text found)])
  | runStarted mode cases =>
      ("running cases", [("mode", mode.name), ("cases", Decimal.text cases)])
  | stageEnded caseName side stage ending =>
      let about := [("case", caseName), ("variant", side.name),
        ("stage", "\"" ++ stage.name ++ "\"")]
      match ending with
      | .succeeded => ("stage succeeded", about)
      | .failed status => ("stage exited unsuccessfully", about ++ [("status", status.describe)])
      | .notStarted reason => ("stage could not be started", about ++ [("error", reason)])
  | runComplete cases diverged =>
      ("run complete", [("cases", Decimal.text cases), ("diverged", Decimal.text diverged)])

/-- The names of the fields; what is said is one of them. -/
def fieldNames (e : Event) : List String := "message" :: e.content.2.map (·.1)

/-- The level, right-aligned. -/
def levelColumn (l : Level) : String :=
  String.ofList (List.replicate (5 - l.name.length) ' ') ++ l.name

/-- The event as a line, without the time. -/
def line (e : Event) : String :=
  let (message, fields) := e.content
  levelColumn e.level ++ " " ++ message ++
    String.join (fields.map fun (key, value) => " " ++ key ++ "=" ++ value) ++ "\n"

end Event

/-! ### Filters -/

/-- Shows events from origins that start so, with this field, up to a rank. -/
structure Directive where
  /-- Absent for events from anywhere. -/
  origin : Option String := none
  /-- Absent for events with any fields. -/
  field : Option String := none
  rank : Nat
  deriving DecidableEq, Repr

namespace Directive

def appliesTo (d : Directive) (e : Event) : Bool :=
  d.origin.all (fun origin => origin.toList.isPrefixOf e.origin.toList)
    && d.field.all e.fieldNames.contains

/-- How long the origin is; none is shorter than an empty one. -/
def originLength (d : Directive) : Nat := (d.origin.map (·.utf8ByteSize + 1)).getD 0

/-- Whether a directive counts rather than another one that applies to the same event and was
given before it. Origins of one length are the same then. -/
def outranks (d other : Directive) : Bool :=
  other.originLength < d.originLength
    || (other.originLength = d.originLength && match other.field, d.field with
      | none, _ => true
      | some _, none => false
      | some a, some b => decide (a ≤ b))

end Directive

/-- The directives in force; none shows nothing. -/
abbrev Filter := List Directive

namespace Filter

def silent : Filter := []

def shows (f : Filter) (e : Event) : Bool :=
  let best := (f.filter (·.appliesTo e)).foldl (fun (best : Option Directive) d =>
    if best.all d.outranks then some d else best) none
  best.any fun d => e.level.rank ≤ d.rank

/-- The filter for a number of `-v` flags. -/
def ofVerbosity : Nat → Filter
  | 0 => [{ rank := Level.warn.rank }]
  | 1 => [{ rank := Level.info.rank }]
  | _ => [{ rank := Level.debug.rank }]

/-! ### Reading directives -/

/-- A level by number, with zeros or a plus sign in front if need be. -/
def rankOfNumber? (text : String) : Option Nat :=
  let digits := match text.toList with
    | '+' :: rest => rest
    | cs => cs
  (Decimal.read? digits).filter (· ≤ Level.trace.rank)

/-- A level by number or by name in any case; `off` and 0 show nothing. -/
def rankOf? (text : String) : Option Nat :=
  let name := text.toLower
  match rankOfNumber? text with
  | some rank => some rank
  | none =>
      if name = "off" then some 0
      else (Level.all.find? (fun l => l.name.toLower == name)).map Level.rank

/-- A level, where none stands for all events. -/
def rankOrAll? (text : String) : Option Nat :=
  if text.isEmpty then some Level.trace.rank else rankOf? text

/-- Characters that a directive may start with, brackets aside. -/
def startsOrigin (c : Char) : Bool := c == '-' || c == ':' || c == '_' || Alphanumeric.contains c

/-- Whether a text may stand for the value of a field: a number with a plus sign, or a pattern. -/
def isValuePattern (cs : List Char) : Bool :=
  match cs with
  | '+' :: number => number.any Char.isDigit && number.all fun c => c.isDigit || c == '.'
  | _ => RegexSyntax.isWellFormed cs

/-- A field that a directive names, and whether a value is asked for too. -/
def field? (text : String) : Option (String × Bool) :=
  match text.splitOn "=" with
  | [] => none
  | [name] => if name.isEmpty then none else some (name, false)
  | name :: value :: _ => if isValuePattern value.toList then some (name, true) else none

inductive Bracket where
  /-- Only a field is named. -/
  | field (name : String)
  /-- Names a section of the work, or asks for the value of a field, which is looked at in
  sections only. No event is in a section. -/
  | section_
  deriving DecidableEq, Repr

/-- Reads from behind an opening bracket up to behind the closing one. -/
def bracket? (cs : List Char) : Option (Bracket × List Char) := do
  let name := cs.takeWhile fun c => c ≠ ']' ∧ c ≠ '\x7b'
  match cs.drop name.length with
  | ']' :: rest => some (.section_, rest)
  | _ :: rest =>
      let text := rest.takeWhile (· ≠ '\x7d')
      let (fieldName, hasValue) ← field? (String.ofList text)
      match rest.drop text.length with
      | _ :: ']' :: rest =>
          some (if name.isEmpty ∧ ¬ hasValue then .field fieldName else .section_, rest)
      | _ => none
  | [] => none

structure Parts where
  origin : List Char
  bracket : Option Bracket := none
  /-- What stands behind an equals sign. -/
  level : Option (List Char) := none

/-- Takes a directive without blanks around it apart. -/
def parts? (cs : List Char) : Option Parts := do
  let origin := cs.takeWhile fun c => c ≠ '=' ∧ c ≠ '['
  if ¬ cs.head?.any fun c => startsOrigin c ∨ c = '[' then none
  else match cs.drop origin.length with
    | [] => some { origin }
    | '=' :: level => some { origin, level }
    | _ :: rest => do
        let (bracket, rest) ← bracket? rest
        match rest with
        | [] => some { origin, bracket }
        | '=' :: level => some { origin, bracket, level }
        | _ => none

/-- Reads one directive: a level, an origin, or both, with brackets between them. An origin
alone shows everything. Blanks around a directive become part of its words, so a level with
blanks is none, and an origin with blanks is that of no event. A directive that no event can
satisfy has no inner result. -/
def directive? (cs : List Char) : Option (Option Directive) := do
  let p ← parts? (Blank.trim cs)
  let after := (cs.reverse.takeWhile Blank.isWhiteSpace).reverse
  if cs.head?.any Blank.isWhiteSpace then
    if p.level.isSome then none else some none
  else
    let origin : Option String := if p.origin.isEmpty then none else some (String.ofList p.origin)
    let level := p.level.map fun level => String.ofList (level ++ after)
    match p.bracket, level with
    | none, none =>
        let word := String.ofList (p.origin ++ after)
        match rankOf? word with
        | some rank => some (some { rank })
        | none => some (some { origin := some word, rank := Level.trace.rank })
    | bracket, _ => do
        let rank ← match level with
          | none => some Level.trace.rank
          | some level => rankOrAll? level
        match bracket with
        | none => some (some { origin, rank })
        | some (.field name) => some (some { origin, field := some name, rank })
        | some .section_ => some none

/-- The items of a list between commas, without empty ones. -/
def items (text : String) : List String :=
  (text.splitOn ",").filter (!·.isEmpty)

/-- Reads a list of directives. An empty one shows errors. -/
def ofDirectives? (text : String) : Option Filter :=
  match items text with
  | [] => some [{ rank := Level.error.rank }]
  | texts => (texts.mapM fun t => directive? t.toList).map (·.filterMap id)

/-- The filter in force: the directives, if there are any and all of them are well-formed, or
else the flags. -/
def choose (directives : Option String) (verbosity : Nat) : Filter :=
  (directives.bind ofDirectives?).getD (ofVerbosity verbosity)

end Filter

end TwinRun.Log
