import TwinRun.Comparison
import TwinRun.Proofs.Diff.Script
import TwinRun.Proofs.Diff.Windows
import TwinRun.Proofs.Text.Lines

/-!
When a comparison is a match.

* `diff_eq_nil`: the diff of two byte strings has no hunks exactly if they are equal.
* `Comparison.ofBytes_spec`: a comparison is a match, and shows nothing, exactly if the two outputs
  are equal byte for byte, and leaving out the diff of equal outputs changes nothing.
-/

namespace TwinRun

/-- A script shows no hunk exactly if it changes nothing. -/
theorem Hunk.ofScript_eq_nil {script : List (Edit Line)} {context : Nat} :
    ofScript script context = [] ↔ ∀ e ∈ script, e.isChange = false := by
  rw [ofScript, List.map_eq_nil_iff, windows_eq_nil, changePlaces_eq_nil]

/-- The diff has no hunks exactly if the two byte strings are equal. Lines of invalid text, blank
lines and a last line without line feed are no exceptions. -/
theorem diff_eq_nil {old new : Bytes} {context : Nat} : diff old new context = [] ↔ old = new := by
  rw [diff, Hunk.ofScript_eq_nil]
  constructor
  · intro h
    have hsides := Edit.olds_eq_news h
    rw [Script.olds_ofLines, Script.news_ofLines] at hsides
    exact Line.split_injective hsides
  · rintro rfl e he
    rw [Script.ofLines_self] at he
    obtain ⟨line, -, rfl⟩ := List.mem_map.mp he
    rfl

namespace Comparison

/-- Only a match shows nothing. -/
theorem rendered_eq_nil {c : Comparison} : c.rendered = [] ↔ c.hunks = [] := by
  rw [rendered, isMatch]
  cases c.hunks <;> simp

theorem render_eq_empty {c : Comparison} : c.render = "" ↔ c.hunks = [] := by
  rw [← rendered_eq_nil, render]
  constructor
  · intro h
    cases hlines : c.rendered with
    | nil => rfl
    | cons line lines =>
        rw [hlines] at h
        have hlength := congrArg String.length h
        simp at hlength
  · intro h
    rw [h]
    rfl

/-- Leaving out the diff of equal outputs changes nothing. -/
theorem hunks_ofBytes (name : String) (referencePath : Path) (reference : Bytes)
    (candidatePath : Path) (candidate : Bytes) (context : Nat) :
    (ofBytes name referencePath reference candidatePath candidate context).hunks
      = diff reference candidate context := by
  by_cases h : reference = candidate
  · exact (if_pos h).trans (diff_eq_nil.mpr h).symm
  · exact if_neg h

theorem isMatch_ofBytes (name : String) (referencePath : Path) (reference : Bytes)
    (candidatePath : Path) (candidate : Bytes) (context : Nat) :
    (ofBytes name referencePath reference candidatePath candidate context).isMatch = true ↔
      reference = candidate := by
  rw [isMatch, List.isEmpty_iff, hunks_ofBytes, diff_eq_nil]

/-- **No false match and no false divergence.** A comparison has no hunks, and shows nothing,
exactly if the two outputs are equal byte for byte; its hunks are those of the diff in every case,
the case of equal outputs included. -/
theorem ofBytes_spec (name : String) (referencePath : Path) (reference : Bytes)
    (candidatePath : Path) (candidate : Bytes) (context : Nat) :
    let c := ofBytes name referencePath reference candidatePath candidate context
    (c.isMatch = true ↔ reference = candidate) ∧ (c.render = "" ↔ reference = candidate) ∧
      c.hunks = diff reference candidate context := by
  refine ⟨isMatch_ofBytes .., ?_, hunks_ofBytes ..⟩
  rw [render_eq_empty, hunks_ofBytes, diff_eq_nil]

end Comparison

end TwinRun
