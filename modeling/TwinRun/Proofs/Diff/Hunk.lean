import Mathlib.Data.List.Induction
import TwinRun.Proofs.Diff.Windows

/-!
What a hunk says about its window.

`NumberedScript.hunk_eq`: the line numbers in a hunk count the lines of either side before the
window, its lengths those in the window, and its lines are the edits of the window.
-/

namespace TwinRun

def Window.edits (w : Window) (script : List (Edit Line)) : List (Edit Line) :=
  (script.drop w.start).take (w.stop - w.start)

/-- What stands before the end of a window is what stands before it and the window. -/
theorem Window.take_stop {w : Window} (h : w.start ≤ w.stop) (script : List (Edit Line)) :
    script.take w.stop = script.take w.start ++ w.edits script := by
  rw [Window.edits, ← List.take_add, Nat.add_sub_cancel' h]

/-- A window and what stands behind it. -/
theorem Window.drop_start {w : Window} (h : w.start ≤ w.stop) (script : List (Edit Line)) :
    script.drop w.start = w.edits script ++ script.drop w.stop := by
  have hstop : w.start + (w.stop - w.start) = w.stop := Nat.add_sub_cancel' h
  rw [Window.edits, ← hstop, ← List.drop_drop, Nat.add_sub_cancel_left, List.take_append_drop]

/-- The edits of an unchanged stretch. -/
theorem Unchanged.isChange_eq_false {script : List (Edit Line)} {a b : Nat}
    (h : Unchanged script a b) : ∀ e ∈ Window.edits ⟨a, b⟩ script, e.isChange = false := by
  intro e he
  obtain ⟨i, hi, rfl⟩ := List.getElem_of_mem he
  simp only [Window.edits, List.length_take, List.length_drop] at hi
  simp only [Window.edits, List.getElem_take, List.getElem_drop]
  exact h (a + i) (by omega) (by omega) _ (List.getElem?_eq_getElem _)

/-! ### Counting -/

/-- One step of counting: the count so far is noted for the place of the edit. -/
def countStep (counts : Edit Line → Bool) (s : Array Nat × Nat) (e : Edit Line) :
    Array Nat × Nat :=
  (s.1.push s.2, if counts e then s.2 + 1 else s.2)

theorem getD_push {a : Array Nat} {n i : Nat} :
    (a.push n).getD i 0 = if i = a.size then n else a.getD i 0 := by
  simp only [Array.getD_eq_getD_getElem?, Array.getElem?_push]
  split <;> simp

/-- After some edits, a count is noted for every place before them. -/
theorem foldl_countStep (counts : Edit Line → Bool) (script : List (Edit Line)) (capacity : Nat) :
    let r := script.foldl (countStep counts) (Array.emptyWithCapacity capacity, 0)
    r.1.size = script.length ∧ r.2 = script.countP counts ∧
      ∀ i < script.length, r.1.getD i 0 = (script.take i).countP counts := by
  -- From the end of the script, as the last step is the one that notes the count before the last
  -- edit.
  induction script using List.reverseRecOn with
  | nil => simp
  | append_singleton script e ih =>
      obtain ⟨hsize, htotal, hbefore⟩ := ih
      simp only [List.foldl_append, List.foldl_cons, List.foldl_nil]
      refine ⟨?_, ?_, ?_⟩
      · rw [countStep, Array.size_push, hsize, List.length_append, List.length_singleton]
      · rw [countStep, htotal, List.countP_append, List.countP_singleton]
        split <;> simp
      · intro i hi
        rw [List.length_append, List.length_singleton] at hi
        rw [countStep, getD_push, hsize, List.take_append_of_le_length (by omega)]
        split
        · next heq => rw [heq, List.take_length, htotal]
        · next hne => exact hbefore i (by omega)

/-- The count for a place is that of the edits before it. -/
theorem countsBefore_getD (counts : Edit Line → Bool) {script : List (Edit Line)} {i : Nat}
    (hi : i ≤ script.length) :
    (countsBefore counts script).getD i 0 = (script.take i).countP counts := by
  obtain ⟨hsize, htotal, hbefore⟩ := foldl_countStep counts script (script.length + 1)
  have hcounts : countsBefore counts script =
      (let r := script.foldl (countStep counts) (Array.emptyWithCapacity (script.length + 1), 0)
       r.1.push r.2) := rfl
  rw [hcounts, getD_push, hsize]
  split
  · next heq => rw [heq, List.take_length, htotal]
  · next hne => exact hbefore i (by omega)

theorem countP_old? (script : List (Edit Line)) :
    script.countP (fun e => e.old?.isSome) = (Edit.olds script).length :=
  List.length_filterMap_eq_countP.symm

theorem countP_new? (script : List (Edit Line)) :
    script.countP (fun e => e.new?.isSome) = (Edit.news script).length :=
  List.length_filterMap_eq_countP.symm

/-! ### Hunks -/

/-- The hunk of a window inside the script. -/
theorem NumberedScript.hunk_eq {script : List (Edit Line)} {w : Window} (h : w.start ≤ w.stop)
    (hlength : w.stop ≤ script.length) :
    (NumberedScript.ofScript script).hunk w =
      { oldStart := rangeStart (Edit.olds (script.take w.start)).length
          (Edit.olds (w.edits script)).length
        oldLength := (Edit.olds (w.edits script)).length
        newStart := rangeStart (Edit.news (script.take w.start)).length
          (Edit.news (w.edits script)).length
        newLength := (Edit.news (w.edits script)).length
        lines := (w.edits script).map DiffLine.ofEdit } := by
  have hstart : w.start ≤ script.length := Nat.le_trans h hlength
  have hedits : (script.toArray.extract w.start w.stop).toList = w.edits script := by
    simp [Window.edits]
  simp only [NumberedScript.hunk, NumberedScript.ofScript, countsBefore_getD _ hstart,
    countsBefore_getD _ hlength, countP_old?, countP_new?, Window.take_stop h, Edit.olds_append,
    Edit.news_append, List.length_append, Nat.add_sub_cancel_left, hedits]

end TwinRun
