import TwinRun.Diff.Hunk
import TwinRun.Word

/-!
The diff in machine words.

The context may be any word, so twice the context, or the place that lies so far behind a change,
need not be one. The other numbers of a diff count lines, or cells of a table of lines; where those
are no words, the lines do not fit into memory.
-/

namespace TwinRun

namespace Span

/-- Whether a change at `place` joins the span before it. -/
def reachesIn (overflow : Overflow) (context : Nat) (s : Span) (place : Nat) :
    Except Panic Bool := do
  return place - s.last - 1 ≤ (← Word.mul overflow 2 context)

/-- Groups places, given in increasing order, into spans. -/
def groupIn (overflow : Overflow) (context : Nat) : (places : List Nat) → Except Panic (List Span)
  | [] => return []
  | place :: places => do
      let (done, current) ← places.foldlM (fun (done, current) place => do
        if ← reachesIn overflow context current place then
          return (done, { current with last := place })
        else return (current :: done, ⟨place, place⟩)) (([] : List Span), (⟨place, place⟩ : Span))
      return (current :: done).reverse

/-- The span with its context, inside a script of the given length. -/
def windowIn (overflow : Overflow) (context length : Nat) (s : Span) : Except Panic Window := do
  let stop ← Word.add overflow (← Word.add overflow s.last context) 1
  return ⟨s.first - context, min stop length⟩

end Span

/-- The hunks of a script. -/
def Hunk.ofScriptIn (overflow : Overflow) (script : List (Edit Line)) (context : Nat) :
    Except Panic (List Hunk) := do
  let numbered := NumberedScript.ofScript script
  let spans ← Span.groupIn overflow context (changePlaces script)
  spans.mapM fun s => do return numbered.hunk (← s.windowIn overflow context script.length)

/-- The line diff of two byte strings, as far as it can be counted out. -/
def diffIn (overflow : Overflow) (old new : Bytes) (context : Nat) : Except Panic (List Hunk) :=
  Hunk.ofScriptIn overflow (Script.ofLines (Line.split old) (Line.split new)) context

end TwinRun
