import TwinRun.Proofs.Diff.Minimal

/-!
A new side that only adds lines.

The walk through the table stays where the rows up to it are a subsequence of the columns up to it
(`Common.sublist_take_of_ne` for a step to the left; it never goes up). So it comes to the first
column in the first row, and is not cut short (`Common.not_cut_of_sublist`). A script that keeps all
of the old side deletes nothing, and inserts what the new side has more.

* `Script.ofLines_additions`: this holds of scripts for lines with a middle within the limits; and
  whatever the two sides are, such a script keeps a longest common subsequence of them or one line
  less.
-/

namespace TwinRun

/-! ### What a script deletes and inserts -/

namespace Edit

variable {α : Type}

def deleted? : Edit α → Option α
  | delete a => some a
  | equal _ | insert _ => none

def inserted? : Edit α → Option α
  | insert a => some a
  | equal _ | delete _ => none

def deleted (script : List (Edit α)) : List α := script.filterMap deleted?

def inserted (script : List (Edit α)) : List α := script.filterMap inserted?

/-- An item of the old side is kept or deleted. -/
theorem length_kept_add_deleted (script : List (Edit α)) :
    (kept script).length + (deleted script).length = (olds script).length := by
  induction script with
  | nil => rfl
  | cons e script ih =>
      simp only [kept, deleted, olds, List.filterMap_cons] at ih ⊢
      cases e <;> simp [kept?, deleted?, old?] <;> omega

/-- An item of the new side is kept or inserted. -/
theorem length_kept_add_inserted (script : List (Edit α)) :
    (kept script).length + (inserted script).length = (news script).length := by
  induction script with
  | nil => rfl
  | cons e script ih =>
      simp only [kept, inserted, news, List.filterMap_cons] at ih ⊢
      cases e <;> simp [kept?, inserted?, new?] <;> omega

end Edit

/-! ### Walks that are not cut short -/

namespace Common

variable {α : Type} [DecidableEq α] {as bs : List α} {a b : α} {i j : Nat}

/-- A subsequence of the other list is all in common. -/
theorem longest_eq_length_left (h : as.Sublist bs) : longest as bs = as.length :=
  Nat.le_antisymm (longest_le_length_left as bs) (length_le_longest (List.Sublist.refl as) h)

omit [DecidableEq α] in
/-- A subsequence does not use a last item that is not its own. -/
theorem sublist_take_of_ne (ha : as[i]? = some a) (hb : bs[j]? = some b) (hne : a ≠ b)
    (h : (as.take (i + 1)).Sublist (bs.take (j + 1))) : (as.take (i + 1)).Sublist (bs.take j) := by
  rw [take_succ_of_get hb] at h
  obtain ⟨front, last, hsplit, hfront, hlast⟩ := List.sublist_append_iff.mp h
  rcases List.sublist_singleton.mp hlast with rfl | rfl
  · rw [hsplit, List.append_nil]
    exact hfront
  · rw [take_succ_of_get ha] at hsplit
    exact absurd (List.append_inj_right' hsplit rfl) (by simp [hne])

/-- Where the rows up to a cell are a subsequence of the columns up to it, the walk back from there
is not cut short. It takes an item that both lists have next, or goes to the left; so when it comes
to the first column there is only one row left. -/
theorem not_cut_of_sublist (h : (as.take i).Sublist (bs.take j)) : ¬ Cut as bs i j := by
  intro hcut
  induction hcut with
  | @here i a b ha hb hne hmem hmore =>
      obtain ⟨hi, -⟩ := List.getElem?_eq_some_iff.mp ha
      have hlength := h.length_le.trans (List.length_take_le 1 bs)
      rw [List.length_take_of_le hi] at hlength
      -- All rows up to here are in the one column, so there is one row and none above it.
      obtain rfl : i = 0 := by omega
      simp at hmem
  | take ha hb _ ih =>
      rw [take_succ_of_get ha, take_succ_of_get hb, List.append_sublist_append_right] at h
      exact ih h
  | @up i j a b ha hb hne hup _ _ =>
      obtain ⟨hi, -⟩ := List.getElem?_eq_some_iff.mp ha
      -- The walk only goes up where the rows above have as much in common with the columns. Here
      -- all rows are in the columns, so a row less has less.
      have hall := longest_eq_length_left (sublist_take_of_ne ha hb hne h)
      have habove := longest_le_length_left (as.take i) (bs.take (j + 1))
      rw [List.length_take_of_le hi] at hall
      rw [List.length_take_of_le hi.le] at habove
      omega
  | left ha hb hne _ _ ih => exact ih (sublist_take_of_ne ha hb hne h)

end Common

/-! ### Scripts for lines -/

namespace Script

variable {old new : List Line}

/-- Trimming leaves a subsequence a subsequence. -/
theorem oldMiddle_sublist (h : old.Sublist new) :
    (trim old new).oldMiddle.Sublist (trim old new).newMiddle := by
  have htrimmed : ((trim old new).start ++ (trim old new).oldMiddle ++ (trim old new).rest).Sublist
      ((trim old new).start ++ (trim old new).newMiddle ++ (trim old new).rest) := by
    rw [trim_old, trim_new]
    exact h
  rwa [List.append_sublist_append_right, List.append_sublist_append_left] at htrimmed

/-- Where the new side only adds lines, the walk is not cut short. -/
theorem not_cut_of_sublist (h : old.Sublist new) : ¬ (trim old new).Cut := by
  apply Common.not_cut_of_sublist
  rw [List.take_length, List.take_length]
  exact oldMiddle_sublist h

/-- **Additions show no removal, and at most one common line is lost.** Where the middle is within
the limits and the old lines are a subsequence of the new ones, the script deletes nothing and
inserts as many lines as the new side has more, wherever they stand. Whatever the two sides are, it
keeps no more lines than they have in common, and at most one less. -/
theorem ofLines_additions
    (h : (trim old new).oldMiddle.length * (trim old new).newMiddle.length ≤ maxCells) :
    (old.Sublist new → Edit.deleted (ofLines old new) = [] ∧
      (Edit.inserted (ofLines old new)).length = new.length - old.length) ∧
    Common.longest old new - 1 ≤ (Edit.kept (ofLines old new)).length ∧
    (Edit.kept (ofLines old new)).length ≤ Common.longest old new := by
  obtain ⟨hshort, hwhole⟩ := length_kept_ofLines h
  constructor
  · intro hsub
    have hkept := hwhole (not_cut_of_sublist hsub)
    rw [Common.longest_eq_length_left hsub] at hkept
    have holds := Edit.length_kept_add_deleted (ofLines old new)
    have hnews := Edit.length_kept_add_inserted (ofLines old new)
    rw [olds_ofLines] at holds
    rw [news_ofLines] at hnews
    refine ⟨List.length_eq_zero_iff.mp ?_, ?_⟩ <;> omega
  · by_cases hcut : (trim old new).Cut
    · have := hshort hcut
      omega
    · have := hwhole hcut
      omega

/-- Lines that come again, between and around two lines like them. -/
theorem ofLines_additions_scattered :
    let line : UInt8 → Line := fun b => ⟨[b], true⟩
    let old := [97, 98].map line
    let new := [98, 97, 97, 98, 120].map line
    (trim old new).oldMiddle.length * (trim old new).newMiddle.length ≤ maxCells ∧
      old.Sublist new ∧ Edit.deleted (ofLines old new) = [] ∧
      (Edit.inserted (ofLines old new)).length = 3 := by
  intro line old new
  have hcells : (trim old new).oldMiddle.length * (trim old new).newMiddle.length ≤ maxCells := by
    decide
  have hsub : old.Sublist new := by decide
  exact ⟨hcells, hsub, (ofLines_additions hcells).1 hsub⟩

end Script

end TwinRun
