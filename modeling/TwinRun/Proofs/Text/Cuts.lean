/-!
Lists cut at a separator.

Byte strings and texts are cut at a separator by a fold from the end, in which a separator opens a
new piece and any other item joins the piece after it. `foldr_eq_splitOn` says that this is
`List.splitOn`, so that whatever is known of that holds of all of them.
-/

namespace TwinRun.Cuts

variable {α : Type} [DecidableEq α] {a : α}

/-- An item in front of a list that is cut into `piece` and `rest`. -/
theorem splitOn_cons {x : α} {xs piece : List α} {rest : List (List α)}
    (h : xs.splitOn a = piece :: rest) :
    (x :: xs).splitOn a = if x = a then [] :: piece :: rest else (x :: piece) :: rest := by
  rw [List.splitOn_eq_splitOnP, List.splitOnP_cons_eq_if_modifyHead, ← List.splitOn_eq_splitOnP, h]
  simp

/-- Folding from the end cuts at every separator. -/
theorem foldr_eq_splitOn {step : α → List (List α) → List (List α)}
    (hstep : ∀ x piece rest,
      step x (piece :: rest) = if x = a then [] :: piece :: rest else (x :: piece) :: rest)
    (xs : List α) : xs.foldr step [[]] = xs.splitOn a := by
  induction xs with
  | nil => exact (List.splitOn_nil a).symm
  | cons x xs ih =>
      obtain ⟨piece, rest, hpieces⟩ := List.exists_cons_of_ne_nil (List.splitOn_ne_nil a xs)
      rw [List.foldr_cons, ih, hpieces, hstep, splitOn_cons hpieces]

/-- A list is cut on both sides of a separator. -/
theorem splitOn_append_cons (a : α) (xs ys : List α) :
    (xs ++ a :: ys).splitOn a = xs.splitOn a ++ ys.splitOn a := by
  simp only [List.splitOn_eq_splitOnP]
  exact List.splitOnP_append_cons xs ys (beq_self_eq_true a)

/-- No piece holds the separator. -/
theorem not_mem_of_mem_splitOn {xs piece : List α} (h : piece ∈ xs.splitOn a) : a ∉ piece := by
  induction xs generalizing piece with
  | nil =>
      rw [List.splitOn_nil, List.mem_singleton] at h
      rw [h]
      exact List.not_mem_nil
  | cons x xs ih =>
      obtain ⟨first, rest, hpieces⟩ := List.exists_cons_of_ne_nil (List.splitOn_ne_nil a xs)
      rw [hpieces] at ih
      rw [splitOn_cons hpieces] at h
      split at h
      · rcases List.mem_cons.mp h with rfl | h
        · exact List.not_mem_nil
        · exact ih h
      · next hx =>
          rcases List.mem_cons.mp h with rfl | h
          · exact List.not_mem_cons_of_ne_of_not_mem (Ne.symm hx) (ih List.mem_cons_self)
          · exact ih (List.mem_cons_of_mem first h)

end TwinRun.Cuts
