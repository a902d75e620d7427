import TwinRun.Tool.Basic

/-!
Counting lines, words and bytes.
-/

namespace TwinRun.Tool

def isPrintable (c : Char) : Bool := ' ' ≤ c && c ≤ '~'

/-- The number of words. What is neither shown nor a blank is passed over. -/
def countWords (t : Letters) : Nat :=
  (Letters.words (t.filter fun c => isPrintable c || Letters.isSpace c)).length

def widestLine (t : Letters) : Nat :=
  let (widest, width) := t.foldl (fun (widest, width) c =>
    if c = '\n' ∨ c = '\r' ∨ c = '\x0c' then (max widest width, 0)
    else if c = '\t' then (widest, width + (8 - width % 8))
    else (widest, if isPrintable c then width + 1 else width)) (0, 0)
  max widest width

/-- What can be counted, in the order in which it is shown. -/
def measures : List (Char × (Letters → Nat)) := [
  ('l', fun t => t.count '\n'), ('w', countWords), ('m', List.length), ('c', List.length), ('L', widestLine)]

/-- What options ask to count: lines, words and bytes if they ask for nothing. -/
def measuresOf (o : Options) : List (Char × (Letters → Nat)) :=
  let asked := measures.filter fun m => o.has m.1
  if asked.isEmpty then measures.filter fun m => ['l', 'w', 'c'].contains m.1 else asked

/-- The size of the file that an operand names; nothing if it is no regular file. An operand
that names nothing has no size at all. -/
def sizeOf (operand : Letters) : Job (Option (Option Nat)) := do
  let r ← get
  if operand = ['-'] then
    match r.process.descriptors.lookup stdin with
    | none => return none
    | some (.file h) =>
        match r.kernel.files.opened.lookup h with
        | some { target := .file i, .. } => return some ((r.kernel.files.content? i).map List.length)
        | _ => return some none
    | some _ => return some none
  else
    match r.kernel.files.find r.process.directory (pathOf operand) true with
    | .error _ => return none
    | .ok (_, .file _ content _) => return some (some content.length)
    | .ok _ => return some none

/-- The width of columns: wide enough for the size of all files, and for seven digits where a
size is not known. -/
def columnWidth (sizes : List (Option (Option Nat))) : Nat :=
  if sizes.head? = some none then 1
  else
    let total := ((sizes.filterMap id).filterMap id).foldl (· + ·) 0
    max (Letters.ofNat total).length (if sizes.contains (some none) then 7 else 1)

/-- Counts lines, words and bytes. -/
def wc : Program := withSpec
    { flags := "lwcmL"
      long := [⟨"lines", 'l', none⟩, ⟨"words", 'w', none⟩, ⟨"bytes", 'c', none⟩, ⟨"chars", 'm', none⟩,
        ⟨"max-line-length", 'L', none⟩] } fun o => do
  let columns := measuresOf o
  let operands := orInput o.operands
  let width ← if operands.length = 1 ∧ columns.length = 1 then pure 1
    else pure (columnWidth (← operands.mapM sizeOf))
  let row (numbers : List Nat) (name : Letters) : Letters :=
    [' '].intercalate (numbers.map fun n => Letters.padLeft width (Letters.ofNat n)) ++
      (if name.isEmpty then [] else ' ' :: name) ++ ['\n']
  let rows ← operands.filterMapM fun operand => do
    let result ← if operand = ['-'] then readAll stdin else readFile operand
    let name := if o.operands.isEmpty then [] else operand
    let text ← match result with
      | .ok text => pure (some text)
      | .error e =>
          complain (plainMessage operand e) 1
          -- a directory is counted all the same
          pure (if e = .isDirectory then some [] else none)
    match text with
    | none => return none
    | some text =>
        let numbers := columns.map fun m => m.2 text
        emit (row numbers name)
        return some numbers
  if operands.length > 1 then
    let sums := columns.zipIdx.map fun (m, k) =>
      let column := rows.map fun numbers => numbers.getD k 0
      if m.1 = 'L' then column.foldl max 0 else column.foldl (· + ·) 0
    emit (row sums "total".toList)

end TwinRun.Tool
