import TwinRun.Proofs.Comparison
import TwinRun.Proofs.Diff.Grouping
import TwinRun.Proofs.Diff.Patch
import TwinRun.Proofs.Text.IllFormed

/-!
A diff with so much context that it shows everything.

* `windows_of_length_le`: with as much context as there are edits, one window shows all of them.
* `shows_split`: lines that are read one by one show what the bytes are read as.
* `diff_whole`: such a diff is one hunk, and either side of it is the text of the whole artifact.
-/

namespace TwinRun

section Windows

variable {script : List (Edit Line)} {context : Nat}

/-- With as much context as there are edits, no two changes are too far apart for one span. -/
theorem exists_spans_eq (hchange : changePlaces script ≠ []) (hlength : script.length ≤ context) :
    ∃ s, spans script context = [s] ∧ s.first < script.length := by
  have hsorted := changePlaces_pairwise script
  have hapart := Span.group_apart context hsorted
  have hinside : ∀ s ∈ spans script context, s.first < script.length := fun s hs =>
    lt_length_of_mem_changePlaces (Span.first_mem hsorted hs)
  rw [← spans] at hapart
  cases hspans : spans script context with
  | nil =>
      have hnone : windows script context = [] := by rw [windows_eq_map_spans, hspans, List.map_nil]
      exact absurd (windows_eq_nil.mp hnone) hchange
  | cons s rest =>
      rw [hspans] at hapart hinside
      cases rest with
      | nil => exact ⟨s, rfl, hinside s List.mem_cons_self⟩
      | cons t rest =>
          have hgap := (List.rel_of_pairwise_cons hapart List.mem_cons_self).1
          have ht := hinside t (by simp)
          omega

/-- With as much context as there are edits, one window shows all of them. -/
theorem windows_of_length_le (hchange : changePlaces script ≠ [])
    (hlength : script.length ≤ context) : windows script context = [⟨0, script.length⟩] := by
  obtain ⟨s, hs, hfirst⟩ := exists_spans_eq hchange hlength
  have hstart : s.first - context = 0 := by omega
  have hstop : min (s.last + context + 1) script.length = script.length := by omega
  rw [windows_eq_map_spans, hs, List.map_singleton, Span.window, hstart, hstop]

/-- The hunk of all edits shows both sides, line by line. -/
theorem Hunk.ofScript_of_length_le (hchange : changePlaces script ≠ [])
    (hlength : script.length ≤ context) :
    ∃ h, ofScript script context = [h] ∧ h.oldLines = (Edit.olds script).map TextLine.ofLine ∧
      h.newLines = (Edit.news script).map TextLine.ofLine := by
  have hall : (Window.edits ⟨0, script.length⟩ script) = script := by
    rw [Window.edits, List.drop_zero, Nat.sub_zero, List.take_length]
  refine ⟨(NumberedScript.ofScript script).hunk ⟨0, script.length⟩, ?_, ?_, ?_⟩
  · rw [ofScript, windows_of_length_le hchange hlength, List.map_singleton]
  · rw [NumberedScript.hunk_eq (Nat.zero_le _) (Nat.le_refl _), oldLines, hall, oldLines_map_ofEdit]
  · rw [NumberedScript.hunk_eq (Nat.zero_le _) (Nat.le_refl _), newLines, hall, newLines_map_ofEdit]

end Windows

/-! ### What the lines show -/

/-- Lines of text show the bytes `data`: joined, they are what the bytes are read as when they are
read as one, which is what the bytes stand for. Bytes that spell a text show that text. -/
structure Shows (lines : List TextLine) (data : Bytes) : Prop where
  joined : TextLine.join lines = data.lossy
  reads : Lossy.Reads data (TextLine.join lines).toList
  unchanged : ∀ s, data = Bytes.ofString s → TextLine.join lines = s

/-- Lines that are read one by one show what the bytes are read as. -/
theorem shows_split (data : Bytes) : Shows ((Line.split data).map TextLine.ofLine) data where
  joined := TextLine.join_map_ofLine_split data
  reads := by
    rw [TextLine.join_map_ofLine_split, Bytes.lossy, String.toList_ofList]
    exact Lossy.reads_chars data
  unchanged s hs := by rw [hs, TextLine.map_ofLine_split, TextLine.join_split]

/-- **Late reading.** With as much context as there are edits, two artifacts that differ have one
hunk. Its context and removed lines, read as text one by one, show the whole old artifact as if it
had been read as one, and its context and added lines the new one. -/
theorem diff_whole {old new : Bytes} {context : Nat} (hne : old ≠ new)
    (hcontext : (Script.ofLines (Line.split old) (Line.split new)).length ≤ context) :
    ∃ hunk, diff old new context = [hunk] ∧ Shows hunk.oldLines old ∧ Shows hunk.newLines new := by
  have hchange : changePlaces (Script.ofLines (Line.split old) (Line.split new)) ≠ [] := fun h =>
    hne (diff_eq_nil.mp (Hunk.ofScript_eq_nil.mpr (changePlaces_eq_nil.mp h) : diff old new 0 = []))
  obtain ⟨hunk, hhunk, hold, hnew⟩ := Hunk.ofScript_of_length_le hchange hcontext
  rw [Script.olds_ofLines] at hold
  rw [Script.news_ofLines] at hnew
  refine ⟨hunk, hhunk, ?_, ?_⟩
  · rw [hold]
    exact shows_split old
  · rw [hnew]
    exact shows_split new

/-- A sequence of three bytes that a line feed cuts short is one replacement before the end of its
line, and a byte that starts nothing is one behind it. -/
theorem diff_whole_cut :
    let old : Bytes := [0x61, 0xE2, 0x82, 0x0A, 0x62]
    let new : Bytes := [0x61, 0xE2, 0x82, 0x0A, 0x62, 0xFF]
    old ≠ new ∧ (Script.ofLines (Line.split old) (Line.split new)).length ≤ 3 ∧
      (∃ hunk, diff old new 3 = [hunk] ∧ Shows hunk.oldLines old ∧ Shows hunk.newLines new) ∧
      old.lossy = "a\uFFFD\nb" ∧ new.lossy = "a\uFFFD\nb\uFFFD" := by
  intro old new
  have hne : old ≠ new := by decide
  have htrim : Script.trim (Line.split old) (Line.split new)
      = ⟨[⟨[0x61, 0xE2, 0x82], true⟩], [⟨[0x62], false⟩], [⟨[0x62, 0xFF], false⟩], []⟩ := by decide
  have hlength : (Script.ofLines (Line.split old) (Line.split new)).length ≤ 3 := by
    simp only [Script.ofLines, Script.Trimmed.middle_eq, htrim]
    cbv
  exact ⟨hne, hlength, diff_whole hne hlength, by decide, by decide⟩

end TwinRun
