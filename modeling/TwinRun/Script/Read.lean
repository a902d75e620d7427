import TwinRun.Script.Arguments
import TwinRun.Script.Fields

/-!
Reading lines into variables.

A line is split like an expanded word; the last variable gets all that is left. A backslash
protects the letter after it, and joins lines, unless this is switched off.
-/

namespace TwinRun.Script

/-- A line being read: its stretches, the latest first. -/
structure ReadLine where
  stretches : List Stretch := []
  /-- Letters that may separate, backwards. -/
  open' : List Glyph := []
  /-- A backslash came last. -/
  escaping : Bool := false
  deriving Repr

namespace ReadLine

def close (r : ReadLine) : List Stretch := ⟨.atSeparators, r.open'.reverse⟩ :: r.stretches

def letter (raw : Bool) (r : ReadLine) (c : Char) : ReadLine :=
  if c = border then r
  else if r.escaping then
    let closed := r.close
    { stretches := if c = '\n' then closed else ⟨.never, [.letter true c]⟩ :: closed }
  else if c = '\\' ∧ ¬ raw then { r with escaping := true }
  else { r with open' := .letter true c :: r.open' }

end ReadLine

/-- Takes lines from a channel until one ends that no backslash goes on with. The flag tells
whether there was a line end. -/
def readLines (raw : Bool) (c : Channel) : (most : Nat) → ReadLine → Sh (ReadLine × Bool)
  | 0, _ => throw overrun
  | most + 1, r => do
      let s ← get
      match s.kernel.readLine c with
      | .error _ => return (r, false)
      | .ok (t, kernel) =>
          set { s with kernel }
          let ended := t.getLast? = some '\n'
          let r := (if ended then t.dropLast else t).foldl (ReadLine.letter raw) r
          if !ended then return (r, false)
          if r.escaping then readLines raw c most (r.letter raw '\n')
          else return (r, true)

def readCommand (args : List Letters) : Sh Nat := do
  let (given, names) ← options "r" "p" args
  if names.isEmpty then fail "arg count".toList
  let raw := given.any (·.1 = 'r')
  let (r, ended) ← match (← get).process.descriptors.lookup stdin with
    | some c => readLines raw c maxRounds {}
    | none => pure ({}, false)
  let fields := split (← get).separators (some names.length) r.close.reverse
  for (name, i) in names.zipIdx do
    setVariable name (Glyph.text (fields.getD i []))
  return if ended then 0 else 1

end TwinRun.Script
