import Mathlib.Data.List.Basic
import TwinRun.Diff.Common

/-!
What the walk through the table collects.

Nothing here depends on what stands in the table: whatever steps the walk takes, it collects a
common subsequence of the two lists.

* `subsequence_sublist_left`, `subsequence_sublist_right`: the result is a subsequence of either
  list.
* `subsequence_map`: items may be renamed before or after, as long as different items keep
  different names.
-/

namespace TwinRun.Common

variable {α β : Type}

/-! ### The walk collects a common subsequence -/

/-- A subsequence of the first items is one of the first items and one more. -/
theorem sublist_take_succ {c l : List α} {i : Nat} (h : c.Sublist (l.take i)) :
    c.Sublist (l.take (i + 1)) :=
  h.trans (List.take_sublist_take_left (Nat.le_succ i))

/-- An item taken in place `i` goes behind what is taken before it. -/
theorem append_sublist_take_succ {c l : List α} {a : α} {i : Nat} (hget : l[i]? = some a)
    (h : c.Sublist (l.take i)) : (c ++ [a]).Sublist (l.take (i + 1)) := by
  rw [List.take_add_one, hget]
  exact h.append (List.Sublist.refl _)

variable [DecidableEq α]

/-- The items that the walk puts in front of `found` stand in order in the first `i` items of
one side and in the first `j` of the other. -/
theorem walk_spec (t : Table) (as bs : Array α) (i j : Nat) (found : List α) :
    ∃ c, walk t as bs i j found = c ++ found ∧
      c.Sublist (as.toList.take i) ∧ c.Sublist (bs.toList.take j) := by
  -- On its way back the walk shortens one side or both, and an item is only taken where both sides
  -- have it next.
  fun_induction walk t as bs i j found with
  | case1 j found => exact ⟨[], rfl, List.nil_sublist _, List.nil_sublist _⟩
  | case2 i found => exact ⟨[], rfl, List.nil_sublist _, List.nil_sublist _⟩
  | case3 i j found a hb ha ih =>
      obtain ⟨c, hc, hleft, hright⟩ := ih
      refine ⟨c ++ [a], ?_, ?_, ?_⟩
      · rw [hc, List.append_assoc, List.singleton_append]
      · exact append_sublist_take_succ (by rw [Array.getElem?_toList]; exact ha) hleft
      · exact append_sublist_take_succ (by rw [Array.getElem?_toList]; exact hb) hright
  | case4 => exact ⟨[], rfl, List.nil_sublist _, List.nil_sublist _⟩
  | case5 i j found a b ha hb hne hlast hleft ih =>
      obtain ⟨c, hc, hl, hr⟩ := ih
      exact ⟨c, hc, hl, sublist_take_succ hr⟩
  | case6 i j found a b ha hb hne hlast hup ih =>
      obtain ⟨c, hc, hl, hr⟩ := ih
      exact ⟨c, hc, sublist_take_succ hl, hr⟩
  | case7 => exact ⟨[], rfl, List.nil_sublist _, List.nil_sublist _⟩

/-- The collected items stand in order in both lists. -/
theorem subsequence_sublist (as bs : List α) :
    (subsequence as bs).Sublist as ∧ (subsequence as bs).Sublist bs := by
  obtain ⟨c, hc, hleft, hright⟩ :=
    walk_spec (table as.toArray bs.toArray) as.toArray bs.toArray as.length bs.length []
  have hsub : subsequence as bs = c := by
    rw [← List.append_nil c, ← hc]
    rfl
  rw [List.toList_toArray, List.take_length] at hleft hright
  exact ⟨hsub ▸ hleft, hsub ▸ hright⟩

theorem subsequence_sublist_left (as bs : List α) : (subsequence as bs).Sublist as :=
  (subsequence_sublist as bs).1

theorem subsequence_sublist_right (as bs : List α) : (subsequence as bs).Sublist bs :=
  (subsequence_sublist as bs).2

/-! ### Renaming the items -/

variable [DecidableEq β] {f : α → β}

/-- A row depends only on which items are equal. -/
theorem nextRow_map {x : α} {bs : Array α} (hf : ∀ y ∈ bs, f x = f y → x = y)
    (above : Array Nat) : nextRow (f x) (bs.map f) above = nextRow x bs above := by
  unfold nextRow
  rw [← Array.foldl_toList, ← Array.foldl_toList, Array.toList_map, Array.size_map,
    List.foldl_map]
  refine List.foldl_ext _ _ _ fun row y hy => ?_
  have hsame : (f x = f y) = (x = y) :=
    propext ⟨hf y (Array.mem_toList_iff.mp hy), fun h => by rw [h]⟩
  simp only [hsame]

/-- The table depends only on which items are equal. -/
theorem table_map {as bs : Array α} (hf : ∀ a ∈ as, ∀ b ∈ bs, f a = f b → a = b) :
    table (as.map f) (bs.map f) = table as bs := by
  unfold table
  rw [← Array.foldl_toList, ← Array.foldl_toList, Array.toList_map, Array.size_map,
    List.foldl_map]
  refine List.foldl_ext _ _ _ fun rows x hx => ?_
  rw [nextRow_map (hf x (Array.mem_toList_iff.mp hx))]

/-- The walk depends only on the table and on which items are equal. -/
theorem walk_map {as bs : Array α} (hf : ∀ a ∈ as, ∀ b ∈ bs, f a = f b → a = b) (t : Table)
    (i j : Nat) (found : List α) :
    walk t (as.map f) (bs.map f) i j (found.map f) = (walk t as bs i j found).map f := by
  -- Renaming changes no step: the cells are the same, and items are equal if their names are.
  fun_induction walk t as bs i j found with
  | case1 j found => rw [walk]
  | case2 i found => rw [walk]
  | case3 i j found a hb ha ih =>
      rw [walk]
      simp only [Array.getElem?_map, ha, hb, Option.map_some, if_true]
      exact ih
  | case4 i j found a b hb ha hne hlast =>
      have hfne : f a ≠ f b := fun h => hne (hf a (Array.mem_of_getElem? ha) b
        (Array.mem_of_getElem? hb) h)
      rw [walk]
      simp only [Array.getElem?_map, ha, hb, Option.map_some, if_neg hfne, if_pos hlast]
  | case5 i j found a b hb ha hne hlast hleft ih =>
      have hfne : f a ≠ f b := fun h => hne (hf a (Array.mem_of_getElem? ha) b
        (Array.mem_of_getElem? hb) h)
      rw [walk]
      simp only [Array.getElem?_map, ha, hb, Option.map_some, if_neg hfne, if_neg hlast,
        if_pos hleft]
      exact ih
  | case6 i j found a b hb ha hne hlast hup ih =>
      have hfne : f a ≠ f b := fun h => hne (hf a (Array.mem_of_getElem? ha) b
        (Array.mem_of_getElem? hb) h)
      rw [walk]
      simp only [Array.getElem?_map, ha, hb, Option.map_some, if_neg hfne, if_neg hlast,
        if_neg hup]
      exact ih
  | case7 i j found hnone =>
      rw [walk]
      simp only [Array.getElem?_map]
      split
      · next x y ha hb =>
          obtain ⟨a, ha', -⟩ := Option.map_eq_some_iff.mp ha
          obtain ⟨b, hb', -⟩ := Option.map_eq_some_iff.mp hb
          exact absurd hb' (hnone a b ha')
      · rfl

/-- Renaming all items renames the collected ones. -/
theorem subsequence_map {as bs : List α} (hf : ∀ a ∈ as, ∀ b ∈ bs, f a = f b → a = b) :
    subsequence (as.map f) (bs.map f) = (subsequence as bs).map f := by
  have hf' : ∀ a ∈ as.toArray, ∀ b ∈ bs.toArray, f a = f b → a = b := fun a ha b hb =>
    hf a (List.mem_toArray.mp ha) b (List.mem_toArray.mp hb)
  have hwalk := walk_map hf' (table as.toArray bs.toArray) as.length bs.length []
  rw [← table_map hf', List.map_nil, List.map_toArray, List.map_toArray] at hwalk
  have htable := table_map hf'
  rw [List.map_toArray, List.map_toArray] at htable
  simp only [subsequence, List.size_toArray, List.length_map]
  rw [hwalk, htable]

end TwinRun.Common
