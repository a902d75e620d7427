import Mathlib.Tactic.SplitIfs
import TwinRun.Proofs.Diff.Hunk
import TwinRun.Proofs.Diff.Script
import TwinRun.Proofs.Text.Lines

/-!
Hunks as a patch.

`Patch.apply` applies hunks strictly: every line number, every length and every line of the old
side is checked, and nothing is searched for.

* `Patching.step_hunk`: between two windows of a script, applying the next hunk keeps the two sides
  in step with the script.
* `Patch.apply_hunks`: the hunks of a script turn its old side into its new side.
* `Patch.applyText_diff`: the diff of two texts is a strict patch in both directions.
-/

namespace TwinRun

/-! ### Applying hunks -/

/-- A shown line without its kind. -/
def DiffLine.textLine (line : DiffLine) : TextLine := ⟨line.text, line.missingNewline⟩

/-- The lines that a hunk expects on the old side. -/
def Hunk.oldLines (h : Hunk) : List TextLine :=
  (h.lines.filter (fun line => line.kind ≠ .added)).map DiffLine.textLine

def Hunk.newLines (h : Hunk) : List TextLine :=
  (h.lines.filter (fun line => line.kind ≠ .removed)).map DiffLine.textLine

/-- How many lines stand before a range. An empty range is numbered by the line before it, any
other by its first line. -/
def linesBefore? : (start length : Nat) → Option Nat
  | start, 0 => some start
  | 0, _ + 1 => none
  | start + 1, _ + 1 => some start

/-- The state between two hunks: the old lines still to come, how many are behind, and the new
lines so far. -/
structure Patching where
  rest : List TextLine
  consumed : Nat
  emitted : List TextLine
  deriving DecidableEq, Repr

/-- Applies one hunk: copies the old lines before it, checks that the new lines so far are as many
as the hunk says, that its old lines come next and that both lengths are right. -/
def Patching.step (p : Patching) (h : Hunk) : Option Patching := do
  let oldBefore ← linesBefore? h.oldStart h.oldLength
  let newBefore ← linesBefore? h.newStart h.newLength
  let copied := oldBefore - p.consumed
  if p.consumed ≤ oldBefore ∧ copied ≤ p.rest.length ∧ p.emitted.length + copied = newBefore
      ∧ (p.rest.drop copied).take h.oldLength = h.oldLines ∧ h.oldLines.length = h.oldLength
      ∧ h.newLines.length = h.newLength then
    some { rest := p.rest.drop (copied + h.oldLength)
           consumed := oldBefore + h.oldLength
           emitted := p.emitted ++ p.rest.take copied ++ h.newLines }
  else none

def Patching.finish (p : Patching) : List TextLine := p.emitted ++ p.rest

namespace Patch

def apply (hunks : List Hunk) (old : List TextLine) : Option (List TextLine) :=
  (hunks.foldlM Patching.step ⟨old, 0, []⟩).map Patching.finish

def applyText (hunks : List Hunk) (old : String) : Option String :=
  (apply hunks (TextLine.split old.toList)).map TextLine.join

end Patch

/-! ### One step -/

/-- A range that is said to start behind so many lines does. -/
theorem linesBefore?_rangeStart (before length : Nat) :
    linesBefore? (rangeStart before length) length = some before := by
  cases length <;> rfl

/-- A hunk applies where some copied lines and then its old lines come next, if it counts right. -/
theorem Patching.step_eq {p : Patching} {h : Hunk} (copied rest : List TextLine)
    (hrest : p.rest = copied ++ (h.oldLines ++ rest))
    (hold : h.oldStart = rangeStart (p.consumed + copied.length) h.oldLength)
    (hnew : h.newStart = rangeStart (p.emitted.length + copied.length) h.newLength)
    (hoLength : h.oldLines.length = h.oldLength) (hnLength : h.newLines.length = h.newLength) :
    p.step h = some ⟨rest, p.consumed + copied.length + h.oldLength,
      p.emitted ++ copied ++ h.newLines⟩ := by
  have hnext : (p.rest.drop copied.length).take h.oldLength = h.oldLines := by
    rw [hrest, List.drop_left, ← hoLength, List.take_left]
  have hbehind : p.rest.drop (copied.length + h.oldLength) = rest := by
    rw [← List.drop_drop, hrest, List.drop_left, ← hoLength, List.drop_left]
  have hcopied : p.rest.take copied.length = copied := by rw [hrest, List.take_left]
  have henough : copied.length ≤ p.rest.length := by
    rw [hrest, List.length_append]
    exact Nat.le_add_right _ _
  simp only [Patching.step, hold, hnew, linesBefore?_rangeStart, Option.bind_eq_bind,
    Option.bind_some, Nat.add_sub_cancel_left]
  rw [if_pos ⟨Nat.le_add_right _ _, henough, trivial, hnext, hoLength, hnLength⟩, hcopied, hbehind]

/-! ### Lines of a window -/

/-- The old lines of shown edits are the old side of the edits. -/
theorem oldLines_map_ofEdit (script : List (Edit Line)) :
    ((script.map DiffLine.ofEdit).filter (fun line => line.kind ≠ .added)).map DiffLine.textLine
      = (Edit.olds script).map TextLine.ofLine := by
  induction script with
  | nil => rfl
  | cons e script ih =>
      cases e with
      | equal line => exact congrArg (TextLine.ofLine line :: ·) ih
      | delete line => exact congrArg (TextLine.ofLine line :: ·) ih
      | insert line => exact ih

/-- The new lines of shown edits are the new side of the edits. -/
theorem newLines_map_ofEdit (script : List (Edit Line)) :
    ((script.map DiffLine.ofEdit).filter (fun line => line.kind ≠ .removed)).map DiffLine.textLine
      = (Edit.news script).map TextLine.ofLine := by
  induction script with
  | nil => rfl
  | cons e script ih =>
      cases e with
      | equal line => exact congrArg (TextLine.ofLine line :: ·) ih
      | delete line => exact ih
      | insert line => exact congrArg (TextLine.ofLine line :: ·) ih

/-! ### Running through the windows -/

/-- The state in which everything before the place `pos` of a script has been applied. -/
def Patching.at (script : List (Edit Line)) (pos : Nat) : Patching :=
  { rest := (Edit.olds (script.drop pos)).map TextLine.ofLine
    consumed := (Edit.olds (script.take pos)).length
    emitted := (Edit.news (script.take pos)).map TextLine.ofLine }

/-- The hunk of the next window leads from the place before it to its end. -/
theorem Patching.step_hunk {script : List (Edit Line)} {pos : Nat} {w : Window}
    (hstart : pos ≤ w.start) (hstop : w.start ≤ w.stop) (hlength : w.stop ≤ script.length)
    (hgap : Unchanged script pos w.start) :
    (Patching.at script pos).step ((NumberedScript.ofScript script).hunk w)
      = some (Patching.at script w.stop) := by
  have hsides := Edit.olds_eq_news hgap.isChange_eq_false
  have hbefore := Window.take_stop (w := ⟨pos, w.start⟩) hstart script
  have hbehind := Window.drop_start (w := ⟨pos, w.start⟩) hstart script
  rw [Window.drop_start hstop] at hbehind
  -- Only kept edits lie between `pos` and the window, so both sides of the gap are the same lines.
  generalize Window.edits ⟨pos, w.start⟩ script = gap at hsides hbefore hbehind
  simp only at hbefore hbehind
  rw [NumberedScript.hunk_eq hstop hlength]
  rw [Patching.step_eq ((Edit.olds gap).map TextLine.ofLine)
    ((Edit.olds (script.drop w.stop)).map TextLine.ofLine)]
  · simp only [Patching.at, Window.take_stop hstop, hbefore, hsides, Hunk.newLines,
      newLines_map_ofEdit, Edit.olds_append, Edit.news_append, List.length_append, List.length_map,
      List.map_append]
  · simp only [Patching.at, hbehind, Edit.olds_append, List.map_append, Hunk.oldLines,
      oldLines_map_ofEdit]
  · simp only [Patching.at, hbefore, Edit.olds_append, List.length_append, List.length_map]
  · simp only [Patching.at, hbefore, hsides, Edit.news_append, List.length_append,
      List.length_map]
  · simp only [Hunk.oldLines, oldLines_map_ofEdit, List.length_map]
  · simp only [Hunk.newLines, newLines_map_ofEdit, List.length_map]

/-- The hunks of the windows behind a place lead from it to the end of the script. -/
theorem Patching.foldlM_step_hunks {script : List (Edit Line)} {pos : Nat} {ws : List Window}
    (h : Tiles script pos ws) (hpos : pos ≤ script.length) :
    ((ws.map (NumberedScript.ofScript script).hunk).foldlM step (Patching.at script pos)).map finish
      = some ((Edit.news script).map TextLine.ofLine) := by
  induction h with
  | @rest pos hrest =>
      have hsides := Edit.olds_eq_news hrest.isChange_eq_false
      have hall := Window.take_stop (w := ⟨pos, script.length⟩) hpos script
      have hbehind := Window.drop_start (w := ⟨pos, script.length⟩) hpos script
      simp only [List.take_length, List.drop_length, List.append_nil] at hall hbehind
      conv => rhs; rw [hall]
      simp [Patching.at, Patching.finish, hbehind, hsides]
  | window hstart hstop hlength hgap _ ih =>
      rw [List.map_cons, List.foldlM_cons, step_hunk hstart (Nat.le_of_lt hstop) hlength hgap]
      exact ih hlength

namespace Patch

/-- The hunks of a script turn its old side into its new side, whatever the context. -/
theorem apply_hunks (script : List (Edit Line)) (context : Nat) :
    apply (Hunk.ofScript script context) ((Edit.olds script).map TextLine.ofLine)
      = some ((Edit.news script).map TextLine.ofLine) :=
  Patching.foldlM_step_hunks (windows_tile script context) (Nat.zero_le _)

end Patch

/-! ### Mirroring -/

/-- The edit the other way round. -/
def Edit.mirror {α : Type} : Edit α → Edit α
  | .equal a => .equal a
  | .delete a => .insert a
  | .insert a => .delete a

def LineKind.mirror : LineKind → LineKind
  | .context => .context
  | .removed => .added
  | .added => .removed

def Hunk.mirror (h : Hunk) : Hunk :=
  { oldStart := h.newStart
    oldLength := h.newLength
    newStart := h.oldStart
    newLength := h.oldLength
    lines := h.lines.map fun line => { line with kind := line.kind.mirror } }

theorem Edit.olds_map_mirror {α : Type} (script : List (Edit α)) :
    olds (script.map mirror) = news script := by
  rw [olds, List.filterMap_map, news]
  exact List.filterMap_congr fun e _ => by cases e <;> rfl

theorem Edit.news_map_mirror {α : Type} (script : List (Edit α)) :
    news (script.map mirror) = olds script := by
  rw [news, List.filterMap_map, olds]
  exact List.filterMap_congr fun e _ => by cases e <;> rfl

/-- The places of the changes do not depend on the direction. -/
theorem changePlaces_map_mirror (script : List (Edit Line)) :
    changePlaces (script.map Edit.mirror) = changePlaces script := by
  rw [changePlaces, List.zipIdx_map, List.filterMap_map, changePlaces]
  refine List.filterMap_congr fun p _ => ?_
  obtain ⟨e, i⟩ := p
  cases e <;> rfl

theorem windows_map_mirror (script : List (Edit Line)) (context : Nat) :
    windows (script.map Edit.mirror) context = windows script context := by
  rw [windows, changePlaces_map_mirror, List.length_map, windows]

/-- The hunks of the mirrored script are the mirrored hunks. -/
theorem Hunk.ofScript_map_mirror (script : List (Edit Line)) (context : Nat) :
    ofScript (script.map Edit.mirror) context = (ofScript script context).map mirror := by
  rw [ofScript, windows_map_mirror, ofScript, List.map_map]
  refine List.map_congr_left fun w hw => ?_
  obtain ⟨hstop, hlength⟩ := (windows_tile script context).window_bounds w hw
  have hlines : ∀ e : Edit Line, DiffLine.ofEdit e.mirror
      = { DiffLine.ofEdit e with kind := (DiffLine.ofEdit e).kind.mirror } := fun e => by
    cases e <;> rfl
  have hedits : w.edits (script.map Edit.mirror) = (w.edits script).map Edit.mirror := by
    rw [Window.edits, ← List.map_drop, ← List.map_take, Window.edits]
  rw [Function.comp_apply, NumberedScript.hunk_eq hstop.le hlength,
    NumberedScript.hunk_eq hstop.le (by rwa [List.length_map]), hedits, ← List.map_take,
    Edit.olds_map_mirror, Edit.olds_map_mirror, Edit.news_map_mirror, Edit.news_map_mirror, mirror,
    List.map_map, List.map_map]
  simp only [Function.comp_def, hlines]

/-! ### Texts -/

namespace Patch

/-- The lines of either byte string are those of the script. -/
theorem apply_diff (old new : Bytes) (context : Nat) :
    apply (diff old new context) ((Line.split old).map TextLine.ofLine)
      = some ((Line.split new).map TextLine.ofLine) := by
  have h := apply_hunks (Script.ofLines (Line.split old) (Line.split new)) context
  rwa [Script.olds_ofLines, Script.news_ofLines] at h

/-- Mirrored hunks undo what the hunks do. -/
theorem apply_mirror_diff (old new : Bytes) (context : Nat) :
    apply ((diff old new context).map Hunk.mirror) ((Line.split new).map TextLine.ofLine)
      = some ((Line.split old).map TextLine.ofLine) := by
  have h := apply_hunks ((Script.ofLines (Line.split old) (Line.split new)).map Edit.mirror) context
  rwa [Hunk.ofScript_map_mirror, Edit.olds_map_mirror, Edit.news_map_mirror, Script.olds_ofLines,
    Script.news_ofLines] at h

/-- **Correct patch.** Applied strictly, the diff of two texts turns the old text into exactly the
new one, and the mirrored diff turns the new text into exactly the old one. -/
theorem applyText_diff (old new : String) (context : Nat) :
    applyText (diff (Bytes.ofString old) (Bytes.ofString new) context) old = some new ∧
      applyText ((diff (Bytes.ofString old) (Bytes.ofString new) context).map Hunk.mirror) new
        = some old := by
  have hthere := apply_diff (Bytes.ofString old) (Bytes.ofString new) context
  have hback := apply_mirror_diff (Bytes.ofString old) (Bytes.ofString new) context
  simp only [TextLine.map_ofLine_split] at hthere hback
  rw [applyText, hthere, applyText, hback, Option.map_some, Option.map_some, TextLine.join_split,
    TextLine.join_split]
  exact ⟨rfl, rfl⟩

end Patch

end TwinRun
