import TwinRun.Diff.Edit

/-!
A common subsequence of two lists.

`table` fills in, row by row, the lengths of the longest common subsequences of all
pairs of prefixes. `walk` goes back through the table from its last cell and collects a
common subsequence: equal items are taken; otherwise it steps to the left neighbour if
that is strictly larger than the upper one, else upwards.

The rows stand one behind the other. In the first column the left neighbour is
therefore the last cell of the row above, and a step to it leaves the table: the walk
ends there. It may then miss one common item, never more.
-/

namespace TwinRun.Common

variable {α : Type} [DecidableEq α]

/-- The rows of a table of lengths. -/
abbrev Table := Array (Array Nat)

/-- One cell from its three neighbours. -/
def cell (same : Bool) (diagonal up left : Nat) : Nat :=
  if same then diagonal + 1 else max left up

/-- The row of the item `x` against all of `bs`, from the row above. Cells outside the
table count as zero. -/
def nextRow (x : α) (bs : Array α) (above : Array Nat) : Array Nat :=
  bs.foldl (fun row y =>
    let column := row.size
    let diagonal := if column = 0 then 0 else above.getD (column - 1) 0
    row.push (cell (decide (x = y)) diagonal (above.getD column 0) (row.back?.getD 0)))
    (Array.emptyWithCapacity bs.size)

/-- All rows: one per item of `as`, each as wide as `bs`. -/
def table (as bs : Array α) : Table :=
  as.foldl (fun rows x => rows.push (nextRow x bs (rows.back?.getD #[])))
    (Array.emptyWithCapacity as.size)

def Table.at (t : Table) (row column : Nat) : Nat := (t.getD row #[]).getD column 0

/-- What stands before a cell when the rows are read one behind the other: in the first
column, the last cell of the row above. -/
def Table.before (t : Table) (row column : Nat) : Nat :=
  match column with
  | column + 1 => t.at row column
  | 0 => (t.getD (row - 1) #[]).back?.getD 0

/-- Walks back from the cell with `i` rows and `j` columns up to and including it, adding
the common items in front of `found`. -/
def walk (t : Table) (as bs : Array α) : (i j : Nat) → (found : List α) → List α
  | 0, _, found => found
  | _ + 1, 0, found => found
  | i + 1, j + 1, found =>
      match as[i]?, bs[j]? with
      | some a, some b =>
          if a = b then walk t as bs i j (a :: found)
          else if i = 0 ∧ j = 0 then found
          else if i = 0 ∨ t.before i j > t.at (i - 1) j then walk t as bs (i + 1) j found
          else walk t as bs i (j + 1) found
      | _, _ => found
termination_by i j => i + j

/-- The common subsequence of two lists that the walk collects. -/
def subsequence (as bs : List α) : List α :=
  let as := as.toArray
  let bs := bs.toArray
  walk (table as bs) as bs as.size bs.size []

end TwinRun.Common
