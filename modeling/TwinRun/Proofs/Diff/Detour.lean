import TwinRun.Proofs.Diff.Align

/-!
What the detour through names keeps.

Lines are aligned through texts: each line is replaced by a number that both sides share, the texts
of the numbers are aligned, the blocks are cut into numbers again, and for each number one line is
taken. A line that is missing then would be left out without a word.

* `Cursor.Offers`: the line of the next name stands in front of every side it is taken from.
* `Cursor.offers_named`, `offers_blocks`: within a block, and within any number of blocks, each
  name finds its line.
* `lines_detour`: the names keep the lines apart, the texts and the blocks keep the names, every name
  finds its line, no line is left over, and the script is that of the lines themselves.
-/

namespace TwinRun.Align

/-! ### Names that find their lines -/

/-- The line of a name stands in front of every side from which the block takes a line. -/
def Cursor.Offers (name : Line → List Char) (c : Cursor) (piece : List Char) :
    (block : Chunk (List Char)) → Prop
  | .same _ => ∃ line, c.old.head? = some line ∧ c.new.head? = some line ∧ name line = piece
  | .removed _ => ∃ line, c.old.head? = some line ∧ name line = piece
  | .added _ => ∃ line, c.new.head? = some line ∧ name line = piece

section Blocks

variable {f : Line → List Char}

/-- Within a block, each name finds its line: the names before it have taken theirs. -/
theorem Cursor.offers_named (hf : ∀ line, '\n' ∉ f line) {b : Chunk (List Line)}
    (hb : b.content ≠ []) (old new : List Line) (acc : List (Edit Line))
    {taken rest : List (List Char)} {piece : List Char}
    (h : pieces (named f b).content = taken ++ piece :: rest) :
    Cursor.Offers f (taken.foldl (fun c _ => c.take (named f b))
      ⟨Edit.olds (editsOfBlock b) ++ old, Edit.news (editsOfBlock b) ++ new, acc⟩)
      piece (named f b) := by
  rw [pieces_named hf hb] at h
  obtain ⟨front, back, hlines, hfront, hback⟩ := List.map_eq_append_iff.mp h
  obtain ⟨line, behind, rfl, hpiece, -⟩ := List.map_eq_cons_iff.mp hback
  have hlength : taken.length = front.length := by rw [← hfront, List.length_map]
  rw [foldl_take_named hlines hlength]
  cases b with
  | same lines => exact ⟨line, rfl, rfl, hpiece⟩
  | removed lines => exact ⟨line, rfl, hpiece⟩
  | added lines => exact ⟨line, rfl, hpiece⟩

/-- With any number of blocks taken before it, each name of a block finds its line. -/
theorem offers_blocks (hf : ∀ line, '\n' ∉ f line) {bs : List (Chunk (List Line))}
    (hbs : ∀ b ∈ bs, b.content ≠ []) {before after : List (Chunk (List Char))}
    {block : Chunk (List Char)} (hblocks : bs.map (named f) = before ++ block :: after)
    {taken rest : List (List Char)} {piece : List Char}
    (hpieces : pieces block.content = taken ++ piece :: rest) :
    Cursor.Offers f (taken.foldl (fun c _ => c.take block) (before.foldl Cursor.takeBlock
      ⟨Edit.olds (Merge.edits bs), Edit.news (Merge.edits bs), []⟩)) piece block := by
  obtain ⟨front, back, rfl, rfl, hback⟩ := List.map_eq_append_iff.mp hblocks
  obtain ⟨b, behind, rfl, rfl, -⟩ := List.map_eq_cons_iff.mp hback
  have hfront : ∀ b' ∈ front, b'.content ≠ [] := fun b' hb' =>
    hbs b' (List.mem_append_left _ hb')
  have hb : b.content ≠ [] := hbs b (List.mem_append_right _ List.mem_cons_self)
  rw [Merge.edits_append, Edit.olds_append, Edit.news_append, foldl_takeBlock_named hf hfront,
    Merge.edits_cons, Edit.olds_append, Edit.news_append]
  exact Cursor.offers_named hf hb _ _ _ hpieces

end Blocks

/-! ### The whole detour -/

/-- The detour of two lists of lines through the texts of their names is faithful. -/
structure Detour (old new : List Line) : Prop where
  /-- Both sides are named from one table. -/
  old_names : (Numbering.names ∅ old).1 = old.map (numbering old new).name
  new_names : ((Numbering.names ∅ old).2.names new).1 = new.map (numbering old new).name
  /-- Two lines, on whichever sides, have one name exactly if they are equal. -/
  name_inj : ∀ a ∈ old ++ new, ∀ b ∈ old ++ new,
    (numbering old new).name a = (numbering old new).name b ↔ a = b
  /-- The text of a side is cut back into its names. -/
  old_pieces : pieces (joinPieces (Numbering.names ∅ old).1) = (Numbering.names ∅ old).1
  new_pieces : pieces (joinPieces ((Numbering.names ∅ old).2.names new).1)
    = ((Numbering.names ∅ old).2.names new).1
  /-- So is the text of their common subsequence, the empty one included. -/
  common_pieces : ∀ common, common = Common.subsequence (Numbering.names ∅ old).1
    ((Numbering.names ∅ old).2.names new).1 → listedPieces (joinPieces common) = common
  /-- The blocks are those of the lines, each as the text of its names, -/
  blocks : namedBlocks old new = (Merge.blocks ⟨old, new, Common.subsequence old new⟩).map
    (named (numbering old new).name)
  /-- and the text of a block is cut back into them. -/
  block_pieces : ∀ b ∈ Merge.blocks ⟨old, new, Common.subsequence old new⟩,
    pieces (named (numbering old new).name b).content = b.content.map (numbering old new).name
  /-- Whichever blocks and names come before it, each name of a block finds its line. -/
  offers : ∀ before block after, namedBlocks old new = before ++ block :: after →
    ∀ taken piece rest, pieces block.content = taken ++ piece :: rest →
      Cursor.Offers (numbering old new).name (taken.foldl (fun c _ => c.take block)
        (before.foldl Cursor.takeBlock ⟨old, new, []⟩)) piece block
  /-- At the end both sides are used up, -/
  used_up : ((namedBlocks old new).foldl Cursor.takeBlock ⟨old, new, []⟩).old = [] ∧
    ((namedBlocks old new).foldl Cursor.takeBlock ⟨old, new, []⟩).new = []
  /-- and the edits made are those of the alignment of the lines themselves. -/
  script : lines old new = items old new

/-- **The detour through names is faithful** for any two lists of lines that are not empty. -/
theorem lines_detour {old new : List Line} (hold : old ≠ []) (hnew : new ≠ []) :
    Detour old new := by
  have hnewline := (numbering old new).newline_not_mem_name
  have hcontent : ∀ b ∈ Merge.blocks ⟨old, new, Common.subsequence old new⟩, b.content ≠ [] :=
    fun _ => Merge.content_ne_nil_of_mem_blocks
  have hblocks := namedBlocks_eq hold hnew
  have holds := Merge.olds_blocks (embedded_subsequence old new)
  have hnews := Merge.news_blocks (embedded_subsequence old new)
  have hnames : ∀ side : List Line, ∀ piece ∈ side.map (numbering old new).name,
      '\n' ∉ piece := fun _ => List.forall_mem_map.mpr fun line _ => hnewline line
  have hnonempty : ∀ piece ∈ old.map (numbering old new).name, piece ≠ [] :=
    List.forall_mem_map.mpr fun line _ => (numbering old new).name_ne_nil line
  -- Taking the lines named, block by block, uses up exactly what the blocks hold of either side.
  have htake := foldl_takeBlock_named hnewline hcontent [] [] []
  rw [← hblocks, holds, hnews, List.append_nil, List.append_nil] at htake
  exact {
    old_names := names_old old new
    new_names := names_new old new
    name_inj := fun _ ha _ hb => name_numbering_inj ha hb
    old_pieces := by
      rw [names_old old new]
      exact pieces_joinPieces (mt List.map_eq_nil_iff.mp hold) (hnames old)
    new_pieces := by
      rw [names_new]
      exact pieces_joinPieces (mt List.map_eq_nil_iff.mp hnew) (hnames new)
    common_pieces := by
      rintro common rfl
      have hsub := (Common.subsequence_sublist_left (Numbering.names ∅ old).1
        ((Numbering.names ∅ old).2.names new).1).subset
      rw [names_old old new] at hsub ⊢
      exact listedPieces_joinPieces (fun piece hpiece => hnonempty piece (hsub hpiece))
        fun piece hpiece => hnames old piece (hsub hpiece)
    blocks := hblocks
    block_pieces := fun b hb => pieces_named hnewline (hcontent b hb)
    offers := by
      intro before block after hsplit taken piece rest hpieces
      rw [hblocks] at hsplit
      have hoffers := offers_blocks hnewline hcontent hsplit hpieces
      rwa [holds, hnews] at hoffers
    used_up := by rw [htake]; exact ⟨rfl, rfl⟩
    script := lines_eq_items hold hnew }

/-- Blank lines, repeated lines and a last line without line feed take the detour unharmed. -/
theorem lines_detour_blank :
    ∃ old new : List Line, old = [⟨[], true⟩, ⟨[97], true⟩, ⟨[], true⟩, ⟨[97], false⟩] ∧
      new = [⟨[97], true⟩, ⟨[], true⟩, ⟨[], true⟩] ∧ old ≠ [] ∧ new ≠ [] ∧ Detour old new :=
  ⟨_, _, rfl, rfl, List.cons_ne_nil _ _, List.cons_ne_nil _ _,
    lines_detour (List.cons_ne_nil _ _) (List.cons_ne_nil _ _)⟩

end TwinRun.Align
