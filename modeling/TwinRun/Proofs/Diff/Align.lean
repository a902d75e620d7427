import TwinRun.Proofs.Diff.Merge
import TwinRun.Proofs.Diff.Names

/-!
The alignment of two lists.

* `olds_items`, `news_items`: the edit script of two lists spells out both.
* `lines_eq_items`: the detour of lines through names and texts makes no difference. Two lines
  share a name only if they are equal, each text is cut back into its names, and a block holds
  as many names as lines are to be taken for it, so neither side runs out before the blocks do.
-/

namespace TwinRun.Align

/-! ### Any items -/

section Items

variable {α : Type} [DecidableEq α]

theorem items_eq_edits_blocks (old new : List α) :
    items old new = Merge.edits (Merge.blocks ⟨old, new, Common.subsequence old new⟩) := rfl

/-- The merge of two lists starts with its invariant. -/
theorem embedded_subsequence (old new : List α) :
    Merge.State.Embedded ⟨old, new, Common.subsequence old new⟩ :=
  ⟨Common.subsequence_sublist_left old new, Common.subsequence_sublist_right old new⟩

/-- The edit script of two lists spells out the old one. -/
@[simp] theorem olds_items (old new : List α) : Edit.olds (items old new) = old :=
  Merge.olds_blocks (embedded_subsequence old new)

/-- The edit script of two lists spells out the new one. -/
@[simp] theorem news_items (old new : List α) : Edit.news (items old new) = new :=
  Merge.news_blocks (embedded_subsequence old new)

end Items

/-! ### Taking lines for names -/

/-- As many lines are taken as there are names. `cursor` says what stands in front of the rest
of the lines, and `hstep` that taking one line makes its edit. -/
theorem foldl_take {names : List (List Char)} {lines : List Line} {block : Chunk (List Char)}
    {edit : Line → Edit Line} (cursor : List Line → List (Edit Line) → Cursor)
    (hstep : ∀ line lines acc,
      (cursor (line :: lines) acc).take block = cursor lines (edit line :: acc))
    (h : names.length = lines.length) (acc : List (Edit Line)) :
    names.foldl (fun c _ => c.take block) (cursor lines acc)
      = cursor [] ((lines.map edit).reverse ++ acc) := by
  induction lines generalizing names acc with
  | nil =>
      obtain rfl := List.length_eq_zero_iff.mp h
      rfl
  | cons line lines ih =>
      obtain ⟨name, names, rfl⟩ := List.exists_cons_of_length_eq_add_one h
      rw [List.foldl_cons, hstep, ih (Nat.succ.inj h), List.map_cons, List.reverse_cons,
        List.append_assoc, List.singleton_append]

/-- A block of lines as the text of their names. -/
def named (f : Line → List Char) (b : Chunk (List Line)) : Chunk (List Char) :=
  b.map fun lines => joinPieces (lines.map f)

variable {f : Line → List Char}

/-- The text of a block is cut back into the names of its lines. -/
theorem pieces_named (hf : ∀ line, '\n' ∉ f line) {b : Chunk (List Line)} (hb : b.content ≠ []) :
    pieces (named f b).content = b.content.map f := by
  have hcontent : (named f b).content = joinPieces (b.content.map f) := by cases b <;> rfl
  rw [hcontent, pieces_joinPieces (mt List.map_eq_nil_iff.mp hb)]
  exact List.forall_mem_map.mpr fun line _ => hf line

/-- For as many names as a block starts with lines, these lines are taken. -/
theorem foldl_take_named {b : Chunk (List Line)} {front back : List Line}
    (hb : b.content = front ++ back) {names : List (List Char)}
    (h : names.length = front.length) (old new : List Line) (acc : List (Edit Line)) :
    names.foldl (fun (c : Cursor) _ => c.take (named f b))
        ⟨Edit.olds (editsOfBlock b) ++ old, Edit.news (editsOfBlock b) ++ new, acc⟩
      = ⟨Edit.olds (editsOfBlock (b.map fun _ => back)) ++ old,
          Edit.news (editsOfBlock (b.map fun _ => back)) ++ new,
          (editsOfBlock (b.map fun _ => front)).reverse ++ acc⟩ := by
  cases b with
  | same lines =>
      obtain rfl : lines = front ++ back := hb
      simp only [Chunk.map, editsOfBlock, Edit.olds_map_equal, Edit.news_map_equal,
        List.append_assoc]
      exact foldl_take (fun lines acc => ⟨lines ++ (back ++ old), lines ++ (back ++ new), acc⟩)
        (fun _ _ _ => rfl) h acc
  | removed lines =>
      obtain rfl : lines = front ++ back := hb
      simp only [Chunk.map, editsOfBlock, Edit.olds_map_delete, Edit.news_map_delete,
        List.append_assoc, List.nil_append]
      exact foldl_take (fun lines acc => ⟨lines ++ (back ++ old), new, acc⟩)
        (fun _ _ _ => rfl) h acc
  | added lines =>
      obtain rfl : lines = front ++ back := hb
      simp only [Chunk.map, editsOfBlock, Edit.olds_map_insert, Edit.news_map_insert,
        List.append_assoc, List.nil_append]
      exact foldl_take (fun lines acc => ⟨old, lines ++ (back ++ new), acc⟩)
        (fun _ _ _ => rfl) h acc

/-- For a named block, exactly its lines are taken. -/
theorem takeBlock_named (hf : ∀ line, '\n' ∉ f line) {b : Chunk (List Line)}
    (hb : b.content ≠ []) (old new : List Line) (acc : List (Edit Line)) :
    Cursor.takeBlock ⟨Edit.olds (editsOfBlock b) ++ old, Edit.news (editsOfBlock b) ++ new, acc⟩
      (named f b) = ⟨old, new, (editsOfBlock b).reverse ++ acc⟩ := by
  have hlength : (pieces (named f b).content).length = b.content.length := by
    rw [pieces_named hf hb, List.length_map]
  have hnone : editsOfBlock (b.map fun _ => ([] : List Line)) = [] := by cases b <;> rfl
  have hall : (b.map fun _ => b.content) = b := by cases b <;> rfl
  rw [Cursor.takeBlock, foldl_take_named (List.append_nil _).symm hlength, hnone, hall]
  rfl

/-- For named blocks, exactly their lines are taken, and their edits are made. -/
theorem foldl_takeBlock_named (hf : ∀ line, '\n' ∉ f line) {bs : List (Chunk (List Line))}
    (hbs : ∀ b ∈ bs, b.content ≠ []) (old new : List Line) (acc : List (Edit Line)) :
    (bs.map (named f)).foldl Cursor.takeBlock
        ⟨Edit.olds (Merge.edits bs) ++ old, Edit.news (Merge.edits bs) ++ new, acc⟩
      = ⟨old, new, (Merge.edits bs).reverse ++ acc⟩ := by
  induction bs generalizing acc with
  | nil => rfl
  | cons b bs ih =>
      have hb := hbs b List.mem_cons_self
      have hrest := ih fun b' hb' => hbs b' (List.mem_cons_of_mem b hb')
      rw [List.map_cons, List.foldl_cons, Merge.edits_cons, Edit.olds_append, Edit.news_append,
        List.append_assoc, List.append_assoc, takeBlock_named hf hb, hrest,
        List.reverse_append, List.append_assoc]

/-! ### Texts of names -/

/-- Aligning two texts of names aligns the lines named. -/
theorem texts_joinPieces {old new : List Line} (hold : old ≠ []) (hnew : new ≠ [])
    (hne : ∀ line, f line ≠ []) (hf : ∀ line, '\n' ∉ f line)
    (hinj : ∀ a ∈ old, ∀ b ∈ new, f a = f b → a = b)
    (hinj' : ∀ a ∈ old, ∀ b ∈ old, f a = f b → a = b) :
    texts (joinPieces (old.map f)) (joinPieces (new.map f))
      = (Merge.blocks ⟨old, new, Common.subsequence old new⟩).map (named f) := by
  have hnewline : ∀ l : List Line, ∀ piece ∈ l.map f, '\n' ∉ piece := fun _ =>
    List.forall_mem_map.mpr fun line _ => hf line
  have hnonempty : ∀ l : List Line, ∀ piece ∈ l.map f, piece ≠ [] := fun _ =>
    List.forall_mem_map.mpr fun line _ => hne line
  have hlisted : ∀ l : List Line, listedPieces (joinPieces (l.map f)) = l.map f := fun l =>
    listedPieces_joinPieces (hnonempty l) (hnewline l)
  have hsub := Common.subsequence_sublist old new
  have hdist : Merge.State.Distinguishes f ⟨old, new, Common.subsequence old new⟩ := by
    intro c hc a ha heq
    rcases ha with ha | ha
    · exact hinj' a ha c (hsub.1.subset hc) heq
    · exact (hinj c (hsub.1.subset hc) a ha heq.symm).symm
  unfold texts
  rw [pieces_joinPieces (mt List.map_eq_nil_iff.mp hold) (hnewline old),
    pieces_joinPieces (mt List.map_eq_nil_iff.mp hnew) (hnewline new), Common.subsequence_map hinj]
  simp only [hlisted]
  have hblocks := Merge.blocks_map hdist
  unfold Merge.State.map at hblocks
  rw [hblocks, List.map_map]
  refine List.map_congr_left fun b _ => ?_
  cases b <;> rfl

def namedBlocks (old new : List Line) : List (Chunk (List Char)) :=
  texts (joinPieces (Numbering.names ∅ old).1)
    (joinPieces ((Numbering.names ∅ old).2.names new).1)

theorem lines_eq_foldl_blocks (old new : List Line) :
    lines old new = ((namedBlocks old new).foldl Cursor.takeBlock ⟨old, new, []⟩).edits.reverse :=
  rfl

/-- The blocks are those of the lines themselves. -/
theorem namedBlocks_eq {old new : List Line} (hold : old ≠ []) (hnew : new ≠ []) :
    namedBlocks old new = (Merge.blocks ⟨old, new, Common.subsequence old new⟩).map
      (named (numbering old new).name) := by
  have hleft : ∀ a ∈ old, a ∈ old ++ new := fun _ => List.mem_append_left new
  have hright : ∀ b ∈ new, b ∈ old ++ new := fun _ => List.mem_append_right old
  rw [namedBlocks, names_old old new, names_new]
  exact texts_joinPieces hold hnew (numbering old new).name_ne_nil
    (numbering old new).newline_not_mem_name
    (fun a ha b hb => (name_numbering_inj (hleft a ha) (hright b hb)).mp)
    (fun a ha b hb => (name_numbering_inj (hleft a ha) (hleft b hb)).mp)

/-- **The detour through names makes no difference**: aligned through their names, two non-empty
lists of lines are aligned as lists of lines. -/
theorem lines_eq_items {old new : List Line} (hold : old ≠ []) (hnew : new ≠ []) :
    lines old new = items old new := by
  have hnewline := (numbering old new).newline_not_mem_name
  have htake := foldl_takeBlock_named hnewline
    (fun _ => Merge.content_ne_nil_of_mem_blocks (s := ⟨old, new, Common.subsequence old new⟩))
    [] [] []
  rw [Merge.olds_blocks (embedded_subsequence old new),
    Merge.news_blocks (embedded_subsequence old new), List.append_nil, List.append_nil,
    List.append_nil] at htake
  rw [lines_eq_foldl_blocks, namedBlocks_eq hold hnew, htake, List.reverse_reverse,
    items_eq_edits_blocks]

end TwinRun.Align
