import TwinRun.Diff.Common
import TwinRun.Diff.Merge
import TwinRun.Text.Decimal
import TwinRun.Text.Line
import Std.Data.HashMap

/-!
Aligning two lists of lines.

`Align.items` aligns two lists of anything comparable: a common subsequence, merged
back into an edit script.

Lines are long to compare and may be empty, so a script for lines (`Align.lines`) takes a
detour through texts: each distinct line is named by a number, each side becomes the text
of its names, one a line, and the two texts are aligned line by line. The blocks come back
as texts, are cut into names again, and only the number of names in each block matters:
the lines themselves are taken from the two sides in order.
-/

namespace TwinRun.Align

/-! ### Any items -/

def editsOfBlock {α : Type} : Chunk (List α) → List (Edit α)
  | .same items => items.map .equal
  | .removed items => items.map .delete
  | .added items => items.map .insert

def items {α : Type} [DecidableEq α] (old new : List α) : List (Edit α) :=
  (Merge.blocks ⟨old, new, Common.subsequence old new⟩).flatMap editsOfBlock

/-! ### Texts -/

def joinPieces : List (List Char) → List Char
  | [] => []
  | [piece] => piece
  | piece :: rest => piece ++ '\n' :: joinPieces rest

/-- Cuts a text at its line feeds; the empty text is one empty piece. -/
def pieces (text : List Char) : List (List Char) :=
  text.foldr (fun c pieces =>
    if c = '\n' then [] :: pieces
    else match pieces with
      | [] => [[c]]
      | piece :: rest => (c :: piece) :: rest) [[]]

/-- The pieces of a text that stands for a list: the empty text for the empty list. -/
def listedPieces (text : List Char) : List (List Char) :=
  if text.isEmpty then [] else pieces text

/-- Aligns two texts piece by piece; each block comes back as a text. -/
def texts (old new : List Char) : List (Chunk (List Char)) :=
  let common := joinPieces (Common.subsequence (pieces old) (pieces new))
  (Merge.blocks ⟨listedPieces old, listedPieces new, listedPieces common⟩).map
    (Chunk.map joinPieces)

/-! ### Lines -/

/-- Numbers given to lines so far. -/
abbrev Numbering := Std.HashMap Line Nat

/-- The number of a line, the next free one if it has none yet. -/
def Numbering.number (numbers : Numbering) (line : Line) : Nat × Numbering :=
  match numbers[line]? with
  | some n => (n, numbers)
  | none => (numbers.size, numbers.insert line numbers.size)

/-- The names of all lines in order, and the numbering after them. -/
def Numbering.names (numbers : Numbering) (lines : List Line) : List (List Char) × Numbering :=
  let (names, numbers) := lines.foldl (fun (names, numbers) line =>
    let (n, numbers) := numbers.number line
    (Decimal.digits n :: names, numbers)) (([] : List (List Char)), numbers)
  (names.reverse, numbers)

/-- The lines still to be taken from either side, and the edits so far, last one first. -/
structure Cursor where
  old : List Line
  new : List Line
  edits : List (Edit Line)
  deriving DecidableEq, Repr

/-- Takes one line for a name of the block. A side that has run out gives no edit. -/
def Cursor.take (block : Chunk (List Char)) (c : Cursor) : Cursor :=
  match block with
  | .same _ => ⟨c.old.tail, c.new.tail, (c.old.head?.map Edit.equal).toList ++ c.edits⟩
  | .removed _ => ⟨c.old.tail, c.new, (c.old.head?.map Edit.delete).toList ++ c.edits⟩
  | .added _ => ⟨c.old, c.new.tail, (c.new.head?.map Edit.insert).toList ++ c.edits⟩

def Cursor.takeBlock (c : Cursor) (block : Chunk (List Char)) : Cursor :=
  (pieces block.content).foldl (fun c _ => c.take block) c

def lines (old new : List Line) : List (Edit Line) :=
  let (oldNames, numbers) := Numbering.names ∅ old
  let (newNames, _) := numbers.names new
  let blocks := texts (joinPieces oldNames) (joinPieces newNames)
  (blocks.foldl Cursor.takeBlock ⟨old, new, []⟩).edits.reverse

end TwinRun.Align
