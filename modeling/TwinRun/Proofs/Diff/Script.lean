import TwinRun.Diff.Script
import TwinRun.Proofs.Diff.Align

/-!
The edit script of two lists of lines spells out both.

* `trim_old`, `trim_new`: trimming cuts either list into the shared start, its middle and the
  shared end.
* `olds_ofLines`, `news_ofLines`: whether the middle is aligned or replaced as a block, the script
  keeps and deletes exactly the old lines, and keeps and inserts exactly the new ones.
* `ofLines_faithful`: so no line is lost, invented, moved or taken for another one.
* `ofLines_self`: against itself a list is kept as it is.
-/

namespace TwinRun.Script

/-! ### Shared ends -/

section Shared

variable {α : Type} [DecidableEq α]

theorem sharedStart_cons (a b : α) (old new : List α) :
    sharedStart (a :: old) (b :: new) = if a = b then sharedStart old new + 1 else 0 := by
  unfold sharedStart
  by_cases h : a = b <;> simp [h]

/-- Both lists start with the same items. -/
theorem take_sharedStart (old new : List α) :
    old.take (sharedStart old new) = new.take (sharedStart old new) := by
  induction old generalizing new with
  | nil => simp [sharedStart]
  | cons a old ih =>
      cases new with
      | nil => simp [sharedStart]
      | cons b new =>
          rw [sharedStart_cons]
          by_cases h : a = b
          · rw [if_pos h, List.take_succ_cons, List.take_succ_cons, ih, h]
          · rw [if_neg h, List.take_zero, List.take_zero]

/-- Both lists end with the same items. -/
theorem drop_sharedEnd (old new : List α) :
    old.drop (old.length - sharedEnd old new) = new.drop (new.length - sharedEnd old new) := by
  have htake := take_sharedStart old.reverse new.reverse
  rw [List.take_reverse, List.take_reverse] at htake
  exact List.reverse_injective htake

theorem sharedStart_self (l : List α) : sharedStart l l = l.length := by
  induction l with
  | nil => rfl
  | cons a l ih => rw [sharedStart_cons, if_pos rfl, ih, List.length_cons]

end Shared

/-! ### Trimming -/

/-- The parts of the old side. -/
theorem trim_old (old new : List Line) :
    (trim old new).start ++ (trim old new).oldMiddle ++ (trim old new).rest = old := by
  unfold trim
  simp only [List.append_assoc, List.take_append_drop]

/-- The parts of the new side: start and end are those of the old side. -/
theorem trim_new (old new : List Line) :
    (trim old new).start ++ (trim old new).newMiddle ++ (trim old new).rest = new := by
  unfold trim
  simp only [drop_sharedEnd (old.drop (sharedStart old new)), take_sharedStart old new,
    List.append_assoc, List.take_append_drop]

/-! ### The script -/

/-- A middle that is not replaced has lines on both sides. -/
theorem Trimmed.middles_ne_nil {t : Trimmed} (h : t.replaced = false) :
    t.oldMiddle ≠ [] ∧ t.newMiddle ≠ [] := by
  simp only [Trimmed.replaced, Bool.or_eq_false_iff, List.isEmpty_eq_false_iff] at h
  exact ⟨h.1.1, h.1.2⟩

/-- The edits of the middle: a block replacement or the alignment of the lines. -/
theorem Trimmed.middle_eq (t : Trimmed) :
    t.middle = if t.replaced then t.oldMiddle.map .delete ++ t.newMiddle.map .insert
      else Align.items t.oldMiddle t.newMiddle := by
  unfold Trimmed.middle
  cases h : t.replaced with
  | true => rfl
  | false =>
      obtain ⟨hold, hnew⟩ := Trimmed.middles_ne_nil h
      exact Align.lines_eq_items hold hnew

@[simp] theorem Trimmed.olds_middle (t : Trimmed) : Edit.olds t.middle = t.oldMiddle := by
  rw [Trimmed.middle_eq]
  split <;> simp

@[simp] theorem Trimmed.news_middle (t : Trimmed) : Edit.news t.middle = t.newMiddle := by
  rw [Trimmed.middle_eq]
  split <;> simp

/-- The script keeps and deletes exactly the old lines. -/
@[simp] theorem olds_ofLines (old new : List Line) : Edit.olds (ofLines old new) = old := by
  unfold ofLines
  rw [Edit.olds_append, Edit.olds_append, Edit.olds_map_equal, Edit.olds_map_equal,
    Trimmed.olds_middle, trim_old]

/-- The script keeps and inserts exactly the new lines. -/
@[simp] theorem news_ofLines (old new : List Line) : Edit.news (ofLines old new) = new := by
  unfold ofLines
  rw [Edit.news_append, Edit.news_append, Edit.news_map_equal, Edit.news_map_equal,
    Trimmed.news_middle, trim_new]

/-! ### Places -/

section Places

variable {α : Type} {edit : Edit α} {a : α}

/-- What an edit takes from the old side stands there behind what the edits before it take. -/
theorem getElem?_olds (before after : List (Edit α)) (h : edit.old? = some a) :
    (Edit.olds (before ++ edit :: after))[(Edit.olds before).length]? = some a := by
  have hcons : Edit.olds (edit :: after) = a :: Edit.olds after := List.filterMap_cons_some h
  rw [Edit.olds_append, hcons, List.getElem?_append_right le_rfl, Nat.sub_self,
    List.getElem?_cons_zero]

/-- What an edit gives to the new side stands there behind what the edits before it give. -/
theorem getElem?_news (before after : List (Edit α)) (h : edit.new? = some a) :
    (Edit.news (before ++ edit :: after))[(Edit.news before).length]? = some a := by
  have hcons : Edit.news (edit :: after) = a :: Edit.news after := List.filterMap_cons_some h
  rw [Edit.news_append, hcons, List.getElem?_append_right le_rfl, Nat.sub_self,
    List.getElem?_cons_zero]

end Places

/-- **The script is faithful to both sides**, whether their middles are aligned or replaced as a
block. What it keeps and deletes are the old lines in order, what it keeps and inserts the new ones,
and each edit is about the line that stands at its place: a deleted line on the old side, an
inserted line on the new side, and a kept line on both. -/
theorem ofLines_faithful (old new : List Line) :
    Edit.olds (ofLines old new) = old ∧ Edit.news (ofLines old new) = new ∧
      ∀ before edit after, ofLines old new = before ++ edit :: after →
        (∀ line, edit.old? = some line → old[(Edit.olds before).length]? = some line) ∧
        (∀ line, edit.new? = some line → new[(Edit.news before).length]? = some line) := by
  refine ⟨olds_ofLines old new, news_ofLines old new, fun before edit after hscript => ?_⟩
  constructor
  · intro line hold
    have hplace := getElem?_olds before after hold
    rwa [← hscript, olds_ofLines] at hplace
  · intro line hnew
    have hplace := getElem?_news before after hnew
    rwa [← hscript, news_ofLines] at hplace

/-- The script of a list against itself keeps every line. -/
theorem ofLines_self (lines : List Line) : ofLines lines lines = lines.map .equal := by
  unfold ofLines trim
  simp only [sharedStart_self, List.take_length, List.drop_length]
  simp [Trimmed.middle, Trimmed.replaced]

end TwinRun.Script
