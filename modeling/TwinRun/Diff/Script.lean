import TwinRun.Diff.Align

/-!
The edit script of two lists of lines.

The common start and, of what remains, the common end are kept as they are. Only the
middle is aligned; where that would take too large a table, or one side has no middle, the
old middle is deleted and the new one inserted as a block.
-/

namespace TwinRun.Script

/-- The largest table that is filled in: old lines times new lines of the middle. -/
def maxCells : Nat := 4000000

def sharedStart {α : Type} [DecidableEq α] (old new : List α) : Nat :=
  ((old.zip new).takeWhile (fun (a, b) => a = b)).length

def sharedEnd {α : Type} [DecidableEq α] (old new : List α) : Nat :=
  sharedStart old.reverse new.reverse

/-- Two lists cut into the shared start, the two middles and the shared end. -/
structure Trimmed where
  start : List Line
  oldMiddle : List Line
  newMiddle : List Line
  rest : List Line
  deriving DecidableEq, Repr

/-- Cuts off the shared start and then the shared end of what remains. -/
def trim (old new : List Line) : Trimmed :=
  let start := sharedStart old new
  let oldRest := old.drop start
  let newRest := new.drop start
  let shared := sharedEnd oldRest newRest
  { start := old.take start
    oldMiddle := oldRest.take (oldRest.length - shared)
    newMiddle := newRest.take (newRest.length - shared)
    rest := oldRest.drop (oldRest.length - shared) }

/-- Whether the middle is replaced as a block. -/
def Trimmed.replaced (t : Trimmed) : Bool :=
  t.oldMiddle.isEmpty || t.newMiddle.isEmpty
    || t.oldMiddle.length * t.newMiddle.length > maxCells

/-- The edits of the middle. -/
def Trimmed.middle (t : Trimmed) : List (Edit Line) :=
  if t.replaced then t.oldMiddle.map .delete ++ t.newMiddle.map .insert
  else Align.lines t.oldMiddle t.newMiddle

/-- The edit script that turns `old` into `new`. -/
def ofLines (old new : List Line) : List (Edit Line) :=
  let t := trim old new
  t.start.map .equal ++ t.middle ++ t.rest.map .equal

end TwinRun.Script
