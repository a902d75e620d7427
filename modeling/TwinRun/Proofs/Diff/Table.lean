import Mathlib.Data.List.Induction
import TwinRun.Proofs.Diff.CommonSubsequence
import TwinRun.Proofs.Diff.Longest

/-!
How much of what two lists have in common the walk collects.

* `table_at`: the table holds the lengths of longest common subsequences.
* `Cut`: the walk is cut short. It comes to the first column in a row whose item is not the first
  one of the other list, but the rows above hold that item, and more with it.
* `Collects`: the walk collects a longest common subsequence, or one item less if it is cut short.
* `collects_subsequence`: so does the walk from the last cell of the table.
-/

namespace TwinRun.Common

/-! ### Starts of a list -/

section Starts

variable {α β : Type}

/-- The starts of a list, the empty one left out. -/
def starts (l : List α) : List (List α) := (List.range l.length).map fun i => l.take (i + 1)

@[simp] theorem length_starts (l : List α) : (starts l).length = l.length := by simp [starts]

theorem starts_concat (l : List α) (a : α) : starts (l ++ [a]) = starts l ++ [l ++ [a]] := by
  unfold starts
  rw [List.length_append, List.length_singleton, List.range_succ, List.map_append,
    List.map_singleton, List.take_of_length_le (by simp)]
  refine congrArg (· ++ [l ++ [a]]) (List.map_congr_left fun i hi => ?_)
  exact List.take_append_of_le_length (List.mem_range.mp hi)

theorem getD_map_starts (f : List α → β) (d : β) {l : List α} {i : Nat} (hi : i < l.length) :
    ((starts l).map f).toArray.getD i d = f (l.take (i + 1)) := by
  simp [starts, hi]

/-- The last start is the whole list. -/
theorem back?_map_starts (f : List α → β) (l : List α) :
    ((starts l).map f).toArray.back? = if l = [] then none else some (f l) := by
  rcases List.eq_nil_or_concat l with rfl | ⟨l, a, rfl⟩
  · rfl
  · simp [starts_concat]

end Starts

variable {α : Type} [DecidableEq α] {as bs : List α} {a b x : α} {i j : Nat}

/-! ### The table -/

/-- What a list has in common with each start of another one. -/
def lengths (as bs : List α) : Array Nat := ((starts bs).map (longest as)).toArray

theorem lengths_back (as bs : List α) : (lengths as bs).back?.getD 0 = longest as bs := by
  rw [lengths, back?_map_starts]
  split
  · next hnil => rw [hnil, longest_nil_right, Option.getD_none]
  · rfl

/-- The next cell of a row. -/
def rowStep (x : α) (above row : Array Nat) (y : α) : Array Nat :=
  row.push (cell (decide (x = y)) (if row.size = 0 then 0 else above.getD (row.size - 1) 0)
    (above.getD row.size 0) (row.back?.getD 0))

/-- A row comes from the row above it, cell by cell. -/
theorem foldl_rowStep {above : Array Nat}
    (habove : ∀ j < bs.length, above.getD j 0 = longest as (bs.take (j + 1))) :
    bs.foldl (rowStep x above) #[] = lengths (as ++ [x]) bs := by
  induction bs using List.reverseRecOn with
  | nil => rfl
  | append_singleton bs y ih =>
      -- Of the row above only the cells over those already filled are known to the induction.
      have hstart : ∀ j < bs.length, above.getD j 0 = longest as (bs.take (j + 1)) := by
        intro j hj
        rw [habove j (by simp; omega), List.take_append_of_le_length hj]
      have hup : above.getD bs.length 0 = longest as (bs ++ [y]) := by
        rw [habove _ (by simp), List.take_of_length_le (by simp)]
      have hdiagonal : (if bs.length = 0 then 0 else above.getD (bs.length - 1) 0)
          = longest as bs := by
        split
        · next hnil => rw [List.length_eq_zero_iff.mp hnil, longest_nil_right]
        · next hnil =>
            rw [hstart _ (by omega), List.take_of_length_le (by omega)]
      have hsize : (lengths (as ++ [x]) bs).size = bs.length := by simp [lengths]
      have hpush : lengths (as ++ [x]) (bs ++ [y])
          = (lengths (as ++ [x]) bs).push (longest (as ++ [x]) (bs ++ [y])) := by
        simp [lengths, starts_concat]
      rw [List.foldl_concat, ih hstart, rowStep, hsize, hdiagonal, hup, lengths_back, hpush]
      by_cases hxy : x = y
      · rw [hxy, longest_concat_self]
        simp [cell]
      · rw [longest_concat_of_ne hxy, Nat.max_comm]
        simp [cell, hxy]

theorem nextRow_eq {above : Array Nat}
    (habove : ∀ j < bs.length, above.getD j 0 = longest as (bs.take (j + 1))) :
    nextRow x bs.toArray above = lengths (as ++ [x]) bs := by
  rw [← foldl_rowStep habove, nextRow, ← Array.foldl_toList]
  rfl

/-- Each row tells what one more item of the first list has in common with the other list. -/
theorem table_eq (as bs : List α) :
    table as.toArray bs.toArray = ((starts as).map (lengths · bs)).toArray := by
  unfold table
  rw [← Array.foldl_toList]
  induction as using List.reverseRecOn with
  | nil => rfl
  | append_singleton as x ih =>
      -- The last row so far is the one above; before the first item it counts as zeros.
      have habove : ∀ j < bs.length,
          ((((starts as).map (lengths · bs)).toArray).back?.getD #[]).getD j 0
            = longest as (bs.take (j + 1)) := by
        intro j hj
        rw [back?_map_starts]
        split
        · next hnil => rw [hnil, longest_nil_left]; rfl
        · exact getD_map_starts (longest as) 0 hj
      have hrows : (as.foldl (fun rows x => rows.push (nextRow x bs.toArray (rows.back?.getD #[])))
          (Array.emptyWithCapacity as.length)) = ((starts as).map (lengths · bs)).toArray := ih
      rw [List.foldl_concat]
      refine (congrArg (fun rows : Table => rows.push (nextRow x bs.toArray (rows.back?.getD #[])))
        hrows).trans ?_
      rw [nextRow_eq habove, starts_concat]
      simp

/-- The table holds the lengths of longest common subsequences. -/
theorem table_at (hi : i < as.length) (hj : j < bs.length) :
    (table as.toArray bs.toArray).at i j = longest (as.take (i + 1)) (bs.take (j + 1)) := by
  rw [Table.at, table_eq, getD_map_starts _ _ hi]
  exact getD_map_starts _ _ hj

/-- Before the first column stands what the rows above have in common with all columns. -/
theorem table_before_zero (hi : i < as.length) (hi' : i ≠ 0) :
    (table as.toArray bs.toArray).before i 0 = longest (as.take i) bs := by
  rw [Table.before, table_eq, getD_map_starts _ _ (by omega), Nat.sub_add_cancel (by omega)]
  exact lengths_back _ _

/-! ### Starts that grow by one item -/

omit [DecidableEq α] in
theorem take_succ_of_get (h : as[i]? = some a) : as.take (i + 1) = as.take i ++ [a] := by
  rw [List.take_add_one, h, Option.toList_some]

omit [DecidableEq α] in
/-- One place holds one item. -/
theorem eq_of_get (h : as[i]? = some a) (h' : as[i]? = some b) : a = b :=
  Option.some.inj (h.symm.trans h')

/-- Two equal items are taken. -/
theorem longest_take_self (ha : as[i]? = some a) (hb : bs[j]? = some a) :
    longest (as.take (i + 1)) (bs.take (j + 1)) = longest (as.take i) (bs.take j) + 1 := by
  rw [take_succ_of_get ha, take_succ_of_get hb, longest_concat_self]

/-- Of two different items one is passed over. -/
theorem longest_take_of_ne (ha : as[i]? = some a) (hb : bs[j]? = some b) (hne : a ≠ b) :
    longest (as.take (i + 1)) (bs.take (j + 1))
      = max (longest (as.take i) (bs.take (j + 1))) (longest (as.take (i + 1)) (bs.take j)) := by
  rw [take_succ_of_get ha, take_succ_of_get hb, longest_concat_of_ne hne]

/-! ### Walks that are cut short -/

/-- The walk back from the cell with `i` rows and `j` columns is cut short: it comes to the first
column in a row of another item, where the rows above hold the item of that column, and have more
than that in common with the other list. -/
inductive Cut (as bs : List α) : (i j : Nat) → Prop
  /-- The walk is in the first column and ends there. -/
  | here {i : Nat} {a b : α} (ha : as[i]? = some a) (hb : bs[0]? = some b) (hne : a ≠ b)
      (hmem : b ∈ as.take i) (hmore : 2 ≤ longest (as.take i) bs) : Cut as bs (i + 1) 1
  /-- The walk takes an item of both lists. -/
  | take {i j : Nat} {a : α} (ha : as[i]? = some a) (hb : bs[j]? = some a)
      (h : Cut as bs i j) : Cut as bs (i + 1) (j + 1)
  /-- The walk passes over an item of the first list. -/
  | up {i j : Nat} {a b : α} (ha : as[i]? = some a) (hb : bs[j]? = some b) (hne : a ≠ b)
      (hup : longest (as.take (i + 1)) (bs.take j) ≤ longest (as.take i) (bs.take (j + 1)))
      (h : Cut as bs i (j + 1)) : Cut as bs (i + 1) (j + 1)
  /-- The walk passes over an item of the second list. -/
  | left {i j : Nat} {a b : α} (ha : as[i]? = some a) (hb : bs[j]? = some b) (hne : a ≠ b)
      (hleft : longest (as.take i) (bs.take (j + 1)) < longest (as.take (i + 1)) (bs.take j))
      (h : Cut as bs (i + 1) j) : Cut as bs (i + 1) (j + 1)

/-- Only in the second row or further down is a walk cut short. -/
theorem Cut.one_lt (h : Cut as bs i j) : 1 < i := by
  induction h with
  | here _ _ _ hmem _ =>
      have hpos := List.length_pos_of_mem hmem
      rw [List.length_take] at hpos
      omega
  | take _ _ _ ih | up _ _ _ _ _ ih | left _ _ _ _ _ ih => omega

theorem not_cut_zero : ¬ Cut as bs i 0 := by
  intro h
  cases h

/-- In the first column a walk is cut short below an item of that column. -/
theorem Cut.mem_take (h : Cut as bs i j) (hj : j = 1) (hb : bs[0]? = some b) : b ∈ as.take i := by
  induction h with
  | here ha hb' _ hmem _ =>
      obtain rfl := eq_of_get hb' hb
      rw [take_succ_of_get ha]
      exact List.mem_append_left _ hmem
  | up ha _ _ _ _ ih =>
      rw [take_succ_of_get ha]
      exact List.mem_append_left _ (ih hj)
  | take _ _ h _ | left _ _ _ _ h _ =>
      obtain rfl := Nat.succ.inj hj
      exact absurd h not_cut_zero

theorem cut_take (ha : as[i]? = some a) (hb : bs[j]? = some a) :
    Cut as bs (i + 1) (j + 1) ↔ Cut as bs i j := by
  refine ⟨fun h => ?_, Cut.take ha hb⟩
  cases h with
  | take _ _ h => exact h
  | here ha' hb' hne _ _ | up ha' hb' hne _ _ | left ha' hb' hne _ _ =>
      exact absurd ((eq_of_get ha' ha).trans (eq_of_get hb hb')) hne

theorem cut_left (ha : as[i]? = some a) (hb : bs[j]? = some b) (hne : a ≠ b) (hj : j ≠ 0)
    (hleft : longest (as.take i) (bs.take (j + 1)) < longest (as.take (i + 1)) (bs.take j)) :
    Cut as bs (i + 1) (j + 1) ↔ Cut as bs (i + 1) j := by
  refine ⟨fun h => ?_, Cut.left ha hb hne hleft⟩
  cases h with
  | here => exact absurd rfl hj
  | take ha' hb' _ =>
      exact absurd ((eq_of_get ha ha').trans (eq_of_get hb' hb)) hne
  | up _ _ _ hup _ => exact absurd hleft (Nat.not_lt.mpr hup)
  | left _ _ _ _ h => exact h

/-- Where the walk goes up it is cut short only further up. In the first column it goes up where
nothing more is in common there. -/
theorem cut_up (ha : as[i]? = some a) (hb : bs[j]? = some b) (hne : a ≠ b)
    (hup : longest (as.take (i + 1)) (bs.take j) ≤ longest (as.take i) (bs.take (j + 1)))
    (hfirst : j = 0 → longest (as.take i) bs ≤ longest (as.take i) (bs.take 1)) :
    Cut as bs (i + 1) (j + 1) ↔ Cut as bs i (j + 1) := by
  refine ⟨fun h => ?_, Cut.up ha hb hne hup⟩
  cases h with
  | here _ _ _ _ hmore =>
      have hone : longest (as.take i) (bs.take 1) ≤ 1 :=
        (longest_le_length_right _ _).trans (List.length_take_le 1 bs)
      have := hfirst rfl
      omega
  | take ha' hb' _ =>
      exact absurd ((eq_of_get ha ha').trans (eq_of_get hb' hb)) hne
  | up _ _ _ _ h => exact h
  | left _ _ _ hleft _ => exact absurd hleft (Nat.not_lt.mpr hup)

/-- Where more is in common with the other list than with its first item alone, the walk is cut
short if the rows above hold that item. -/
theorem cut_first (ha : as[i]? = some a) (hb : bs[0]? = some b) (hne : a ≠ b)
    (hmore : longest (as.take i) (bs.take 1) < longest (as.take i) bs) :
    Cut as bs (i + 1) 1 ↔ b ∈ as.take i := by
  constructor
  · intro h
    have hmem := h.mem_take rfl hb
    rw [take_succ_of_get ha, List.mem_append, List.mem_singleton] at hmem
    exact hmem.resolve_right hne.symm
  · intro hmem
    rw [take_succ_of_get hb, List.take_zero, List.nil_append,
      longest_singleton_of_mem hmem] at hmore
    exact Cut.here ha hb hne hmem hmore

/-! ### What a walk collects -/

/-- The walk back from the cell with `i` rows and `j` columns collects `n` items: all that is in
common up to there, or one less if it is cut short. -/
def Collects (as bs : List α) (i j n : Nat) : Prop :=
  (Cut as bs i j → n + 1 = longest (as.take i) (bs.take j)) ∧
    (¬ Cut as bs i j → n = longest (as.take i) (bs.take j))

theorem collects_zero_left (as bs : List α) (j : Nat) : Collects as bs 0 j 0 :=
  ⟨fun h => absurd h.one_lt (by omega), fun _ => by simp⟩

theorem collects_zero_right (as bs : List α) (i : Nat) : Collects as bs i 0 0 :=
  ⟨fun h => absurd h not_cut_zero, fun _ => by simp⟩

theorem Collects.take {n : Nat} (ha : as[i]? = some a) (hb : bs[j]? = some a)
    (h : Collects as bs i j n) : Collects as bs (i + 1) (j + 1) (n + 1) := by
  rw [Collects, longest_take_self ha hb, cut_take ha hb]
  exact ⟨fun hcut => by rw [h.1 hcut], fun hcut => by rw [h.2 hcut]⟩

theorem Collects.up {n : Nat} (ha : as[i]? = some a) (hb : bs[j]? = some b) (hne : a ≠ b)
    (hup : longest (as.take (i + 1)) (bs.take j) ≤ longest (as.take i) (bs.take (j + 1)))
    (hfirst : j = 0 → longest (as.take i) bs ≤ longest (as.take i) (bs.take 1))
    (h : Collects as bs i (j + 1) n) : Collects as bs (i + 1) (j + 1) n := by
  rwa [Collects, longest_take_of_ne ha hb hne, Nat.max_eq_left hup, cut_up ha hb hne hup hfirst]

theorem Collects.left {n : Nat} (ha : as[i]? = some a) (hb : bs[j]? = some b) (hne : a ≠ b)
    (hj : j ≠ 0)
    (hleft : longest (as.take i) (bs.take (j + 1)) < longest (as.take (i + 1)) (bs.take j))
    (h : Collects as bs (i + 1) j n) : Collects as bs (i + 1) (j + 1) n := by
  rwa [Collects, longest_take_of_ne ha hb hne, Nat.max_eq_right hleft.le,
    cut_left ha hb hne hj hleft]

/-- In the first row the walk passes over what is different. -/
theorem Collects.left_first {n : Nat} (ha : as[0]? = some a) (hb : bs[j]? = some b) (hne : a ≠ b)
    (h : Collects as bs 1 j n) : Collects as bs 1 (j + 1) n := by
  have hnever : ∀ k, ¬ Cut as bs 1 k := fun k hcut => absurd hcut.one_lt (Nat.lt_irrefl 1)
  have hcell := longest_take_of_ne ha hb hne
  rw [List.take_zero, longest_nil_left, Nat.zero_max] at hcell
  exact ⟨fun hcut => absurd hcut (hnever _), fun _ => (h.2 (hnever _)).trans hcell.symm⟩

/-- In the first column the left neighbour is outside the table, and what is read in its place is
the last cell of the row above. If that is more, nothing is collected any more. -/
theorem collects_first (ha : as[i]? = some a) (hb : bs[0]? = some b) (hne : a ≠ b)
    (hmore : longest (as.take i) (bs.take 1) < longest (as.take i) bs) :
    Collects as bs (i + 1) 1 0 := by
  have hcell := longest_take_of_ne ha hb hne
  rw [List.take_zero, longest_nil_right, Nat.max_zero, take_succ_of_get hb, List.take_zero,
    List.nil_append] at hcell
  rw [Collects, cut_first ha hb hne hmore, take_succ_of_get hb, List.take_zero, List.nil_append,
    hcell]
  exact ⟨fun hmem => (longest_singleton_of_mem hmem).symm,
    fun hmem => (longest_singleton_of_not_mem hmem).symm⟩

/-! ### The walk -/

/-- Before any other column stands what the columns before it have in common with the rows. -/
theorem table_before_succ (hi : i < as.length) (hj : j ≤ bs.length) (hj' : j ≠ 0) :
    (table as.toArray bs.toArray).before i j = longest (as.take (i + 1)) (bs.take j) := by
  obtain ⟨j, rfl⟩ := Nat.exists_eq_succ_of_ne_zero hj'
  exact table_at hi hj

/-- Above a cell stands what the rows before it have in common with the columns. -/
theorem table_above (hi : i ≤ as.length) (hi' : i ≠ 0) (hj : j < bs.length) :
    (table as.toArray bs.toArray).at (i - 1) j = longest (as.take i) (bs.take (j + 1)) := by
  rw [table_at (by omega) hj, Nat.sub_add_cancel (by omega)]

/-- The walk collects all that is in common, or one item less if it is cut short. -/
theorem walk_table (hi : i ≤ as.length) (hj : j ≤ bs.length) (found : List α) :
    ∃ c, walk (table as.toArray bs.toArray) as.toArray bs.toArray i j found = c ++ found ∧
      Collects as bs i j c.length := by
  fun_induction walk (table as.toArray bs.toArray) as.toArray bs.toArray i j found with
  | case1 j found => exact ⟨[], rfl, collects_zero_left as bs j⟩
  | case2 i found => exact ⟨[], rfl, collects_zero_right as bs (i + 1)⟩
  | case3 i j found a hb ha ih =>
      rw [List.getElem?_toArray] at ha hb
      obtain ⟨c, hwalk, hcollects⟩ := ih (by omega) (by omega)
      refine ⟨c ++ [a], by rw [hwalk, List.append_assoc, List.singleton_append], ?_⟩
      rw [List.length_append, List.length_singleton]
      exact hcollects.take ha hb
  | case4 i j found a b hb ha hne hlast =>
      rw [List.getElem?_toArray] at ha hb
      obtain ⟨rfl, rfl⟩ := hlast
      exact ⟨[], rfl, (collects_zero_right as bs 1).left_first ha hb hne⟩
  | case5 i j found a b hb ha hne hlast hleft ih =>
      rw [List.getElem?_toArray] at ha hb
      -- In the first column the cell on the left is the last one of the row above, and going there
      -- ends the walk.
      rcases Nat.eq_zero_or_pos j with rfl | hj'
      · have hi' : i ≠ 0 := fun hi' => hlast ⟨hi', rfl⟩
        have hmore := hleft.resolve_left hi'
        rw [table_before_zero hi hi', table_above (by omega) hi' hj] at hmore
        exact ⟨[], by rw [walk, List.nil_append], collects_first ha hb hne hmore⟩
      · obtain ⟨c, hwalk, hcollects⟩ := ih hi (by omega)
        refine ⟨c, hwalk, ?_⟩
        rcases Nat.eq_zero_or_pos i with rfl | hi'
        · exact hcollects.left_first ha hb hne
        · have hmore := hleft.resolve_left (by omega)
          rw [table_before_succ hi (by omega) (by omega), table_above (by omega) (by omega) hj]
            at hmore
          exact hcollects.left ha hb hne (by omega) hmore
  | case6 i j found a b hb ha hne hlast hup ih =>
      rw [List.getElem?_toArray] at ha hb
      obtain ⟨hi', hup⟩ := not_or.mp hup
      obtain ⟨c, hwalk, hcollects⟩ := ih (by omega) hj
      refine ⟨c, hwalk, ?_⟩
      rw [table_above (by omega) hi' hj, gt_iff_lt, Nat.not_lt] at hup
      rcases Nat.eq_zero_or_pos j with rfl | hj'
      · rw [table_before_zero hi hi'] at hup
        exact hcollects.up ha hb hne (by simp) fun _ => hup
      · rw [table_before_succ hi (by omega) (by omega)] at hup
        exact hcollects.up ha hb hne hup (by omega)
  | case7 i j found hnone =>
      refine (hnone as[i] bs[j] ?_ ?_).elim <;> rw [List.getElem?_toArray, List.getElem?_eq_getElem]

/-- The subsequence is as long as any, or one item shorter if the walk is cut short. -/
theorem collects_subsequence (as bs : List α) :
    Collects as bs as.length bs.length (subsequence as bs).length := by
  obtain ⟨c, hwalk, hcollects⟩ := walk_table (Nat.le_refl as.length) (Nat.le_refl bs.length) []
  have hsub : subsequence as bs = c := by
    rw [← List.append_nil c, ← hwalk]
    rfl
  rwa [hsub]

end TwinRun.Common
