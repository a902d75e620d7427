import Mathlib.Data.List.Sublists
import Mathlib.Data.Nat.Find

/-!
How much two lists have in common.

`Common.longest` is the length of a longest common subsequence, by its definition: no common
subsequence is longer, and there is one of this length. Two equal items at the start or at the end
of both lists belong to a longest one; of two different items at least one is not needed.
-/

namespace TwinRun.Common

variable {α : Type} [DecidableEq α] {as bs cs ds : List α} {a b : α}

/-- The length of a longest common subsequence of two lists. -/
def longest (as bs : List α) : Nat :=
  Nat.findGreatest (fun n => ∃ c ∈ as.sublists, c.Sublist bs ∧ c.length = n) as.length

/-- No common subsequence is longer. -/
theorem length_le_longest {c : List α} (hleft : c.Sublist as) (hright : c.Sublist bs) :
    c.length ≤ longest as bs :=
  Nat.le_findGreatest hleft.length_le ⟨c, List.mem_sublists.mpr hleft, hright, rfl⟩

/-- There is a common subsequence of this length. -/
theorem exists_longest (as bs : List α) :
    ∃ c : List α, c.Sublist as ∧ c.Sublist bs ∧ c.length = longest as bs := by
  have hempty : ∃ c ∈ as.sublists, c.Sublist bs ∧ c.length = 0 :=
    ⟨[], List.mem_sublists.mpr (List.nil_sublist as), List.nil_sublist bs, rfl⟩
  obtain ⟨c, hleft, hright, hlength⟩ := Nat.findGreatest_spec
    (P := fun n => ∃ c ∈ as.sublists, c.Sublist bs ∧ c.length = n) (Nat.zero_le as.length) hempty
  exact ⟨c, List.mem_sublists.mp hleft, hright, hlength⟩

theorem longest_le {n : Nat} (h : ∀ c : List α, c.Sublist as → c.Sublist bs → c.length ≤ n) :
    longest as bs ≤ n := by
  obtain ⟨c, hleft, hright, hlength⟩ := exists_longest as bs
  exact hlength ▸ h c hleft hright

/-- More items have no less in common. -/
theorem longest_mono (has : as.Sublist cs) (hbs : bs.Sublist ds) :
    longest as bs ≤ longest cs ds :=
  longest_le fun _ hleft hright => length_le_longest (hleft.trans has) (hright.trans hbs)

theorem longest_le_length_left (as bs : List α) : longest as bs ≤ as.length :=
  longest_le fun _ hleft _ => hleft.length_le

theorem longest_le_length_right (as bs : List α) : longest as bs ≤ bs.length :=
  longest_le fun _ _ hright => hright.length_le

@[simp] theorem longest_nil_left (bs : List α) : longest [] bs = 0 :=
  Nat.le_zero.mp (longest_le_length_left [] bs)

@[simp] theorem longest_nil_right (as : List α) : longest as [] = 0 :=
  Nat.le_zero.mp (longest_le_length_right as [])

/-- A subsequence of the other list is all in common. -/
theorem longest_eq_length_right (h : bs.Sublist as) : longest as bs = bs.length :=
  Nat.le_antisymm (longest_le_length_right as bs) (length_le_longest h (List.Sublist.refl bs))

/-- The order of the items does not matter, as long as it is turned around in both lists. -/
theorem longest_reverse (as bs : List α) : longest as.reverse bs.reverse = longest as bs := by
  have hle : ∀ xs ys : List α, longest xs.reverse ys.reverse ≤ longest xs ys := by
    intro xs ys
    refine longest_le fun c hleft hright => ?_
    rw [← List.length_reverse]
    exact length_le_longest (List.reverse_sublist.mp (by rwa [List.reverse_reverse]))
      (List.reverse_sublist.mp (by rwa [List.reverse_reverse]))
  refine Nat.le_antisymm (hle as bs) ?_
  have h := hle as.reverse bs.reverse
  rwa [List.reverse_reverse, List.reverse_reverse] at h

/-! ### The first items -/

/-- Two equal first items belong to a longest common subsequence. -/
theorem longest_cons_self (a : α) (as bs : List α) :
    longest (a :: as) (a :: bs) = longest as bs + 1 := by
  refine Nat.le_antisymm (longest_le fun c hleft hright => ?_) ?_
  · have htail : c.tail.length ≤ longest as bs :=
      length_le_longest hleft.tail hright.tail
    rw [List.length_tail] at htail
    omega
  · obtain ⟨c, hleft, hright, hlength⟩ := exists_longest as bs
    rw [← hlength]
    exact length_le_longest (hleft.cons_cons a) (hright.cons_cons a)

/-- Of two different first items one can be left out. -/
theorem longest_cons_of_ne (h : a ≠ b) (as bs : List α) :
    longest (a :: as) (b :: bs) = max (longest as (b :: bs)) (longest (a :: as) bs) := by
  refine Nat.le_antisymm (longest_le fun c hleft hright => ?_) (Nat.max_le.mpr
    ⟨longest_mono (List.sublist_cons_self a as) (List.Sublist.refl _),
      longest_mono (List.Sublist.refl _) (List.sublist_cons_self b bs)⟩)
  cases hleft with
  | cons _ hleft => exact Nat.le_trans (length_le_longest hleft hright) (Nat.le_max_left _ _)
  | cons_cons _ hleft =>
      cases hright with
      | cons _ hright =>
          exact Nat.le_trans (length_le_longest (hleft.cons_cons a) hright) (Nat.le_max_right _ _)
      | cons_cons => exact absurd rfl h

/-- What both lists start with is in common. -/
theorem longest_append_left (common as bs : List α) :
    longest (common ++ as) (common ++ bs) = common.length + longest as bs := by
  induction common with
  | nil => simp
  | cons a common ih =>
      rw [List.cons_append, List.cons_append, longest_cons_self, ih, List.length_cons]
      omega

/-! ### The last items -/

/-- Two equal last items belong to a longest common subsequence. -/
theorem longest_concat_self (a : α) (as bs : List α) :
    longest (as ++ [a]) (bs ++ [a]) = longest as bs + 1 := by
  rw [← longest_reverse, List.reverse_concat, List.reverse_concat, longest_cons_self,
    longest_reverse]

/-- Of two different last items one can be left out. -/
theorem longest_concat_of_ne (h : a ≠ b) (as bs : List α) :
    longest (as ++ [a]) (bs ++ [b]) = max (longest as (bs ++ [b])) (longest (as ++ [a]) bs) := by
  rw [← longest_reverse, List.reverse_concat, List.reverse_concat, longest_cons_of_ne h,
    ← List.reverse_concat, ← List.reverse_concat, longest_reverse, longest_reverse]

/-- What both lists end with is in common. -/
theorem longest_append_right (as bs common : List α) :
    longest (as ++ common) (bs ++ common) = longest as bs + common.length := by
  rw [← longest_reverse, List.reverse_append, List.reverse_append, longest_append_left,
    longest_reverse, List.length_reverse, Nat.add_comm]

/-! ### One item -/

/-- An item alone has itself in common with a list that holds it. -/
theorem longest_singleton_of_mem (h : b ∈ as) : longest as [b] = 1 :=
  longest_eq_length_right (List.singleton_sublist.mpr h)

/-- An item alone has nothing in common with a list that does not hold it. -/
theorem longest_singleton_of_not_mem (h : b ∉ as) : longest as [b] = 0 := by
  refine Nat.le_zero.mp (longest_le fun c hleft hright => ?_)
  cases c with
  | nil => exact Nat.le_refl 0
  | cons x c =>
      obtain rfl : x = b := List.mem_singleton.mp (hright.subset List.mem_cons_self)
      exact absurd (hleft.subset List.mem_cons_self) h

end TwinRun.Common
