import TwinRun.Proofs.Diff.Hunk
import TwinRun.Proofs.Diff.Spans

/-!
What a window shows around the changes of its span.

* `shows_window_iff`: of the changes, the window of a span shows those of the span and no other.
* `keptBefore_window`, `keptBehind_window`: around its changes it shows as many kept lines as the
  context asks for, or all there are where the script begins or ends.
* `Hunk.contextBefore_eq`, `Hunk.contextBehind_eq`: a hunk starts and ends with the lines of context
  that its edits keep there.
-/

namespace TwinRun

/-! ### Kept items at the ends -/

namespace Edit

variable {α : Type} {front rest : List (Edit α)} {e : Edit α}

/-- How many items a script keeps before its first change. -/
def keptBefore (script : List (Edit α)) : Nat := (script.takeWhile (!·.isChange)).length

def keptBehind (script : List (Edit α)) : Nat := keptBefore script.reverse

theorem keptBefore_append_cons (h : ∀ x ∈ front, x.isChange = false) (he : e.isChange = true)
    (rest : List (Edit α)) : keptBefore (front ++ e :: rest) = front.length := by
  have hfront : ∀ x ∈ front, (!x.isChange) = true := fun x hx => by rw [h x hx]; rfl
  rw [keptBefore, List.takeWhile_append_of_pos hfront, List.takeWhile_cons_of_neg (by simp [he]),
    List.append_nil]

theorem keptBehind_append_cons (h : ∀ x ∈ rest, x.isChange = false) (he : e.isChange = true)
    (front : List (Edit α)) : keptBehind (front ++ e :: rest) = rest.length := by
  have hrest : ∀ x ∈ rest.reverse, x.isChange = false := fun x hx => h x (List.mem_reverse.mp hx)
  rw [keptBehind, List.reverse_append, List.reverse_cons, List.append_assoc, List.singleton_append,
    keptBefore_append_cons hrest he, List.length_reverse]

end Edit

/-- How many lines of context a hunk starts with. -/
def Hunk.contextBefore (h : Hunk) : Nat := (h.lines.takeWhile (·.kind = .context)).length

def Hunk.contextBehind (h : Hunk) : Nat := (h.lines.reverse.takeWhile (·.kind = .context)).length

/-- Only what is kept is shown as context. -/
theorem DiffLine.kind_ofEdit (e : Edit Line) :
    decide ((DiffLine.ofEdit e).kind = .context) = !e.isChange := by
  cases e <;> rfl

section Hunks

variable {h : Hunk} {edits : List (Edit Line)}

theorem Hunk.contextBefore_eq (hlines : h.lines = edits.map DiffLine.ofEdit) :
    h.contextBefore = Edit.keptBefore edits := by
  rw [contextBefore, hlines, List.takeWhile_map, List.length_map, Edit.keptBefore]
  exact congrArg (fun p => (edits.takeWhile p).length) (funext DiffLine.kind_ofEdit)

theorem Hunk.contextBehind_eq (hlines : h.lines = edits.map DiffLine.ofEdit) :
    h.contextBehind = Edit.keptBehind edits := by
  rw [contextBehind, hlines, ← List.map_reverse, List.takeWhile_map, List.length_map,
    Edit.keptBehind, Edit.keptBefore]
  exact congrArg (fun p => (edits.reverse.takeWhile p).length) (funext DiffLine.kind_ofEdit)

/-- The shown changes are the changes shown. -/
theorem DiffLine.filter_map_ofEdit (edits : List (Edit Line)) :
    (edits.map DiffLine.ofEdit).filter (fun line => line.kind ≠ .context)
      = (edits.filter Edit.isChange).map DiffLine.ofEdit := by
  rw [List.filter_map]
  refine congrArg (List.map DiffLine.ofEdit) (List.filter_congr fun e _ => ?_)
  cases e <;> rfl

end Hunks

/-! ### Windows of spans -/

/-- The window shows the edit at the place. -/
def Window.Shows (w : Window) (place : Nat) : Prop := w.start ≤ place ∧ place < w.stop

def spans (script : List (Edit Line)) (context : Nat) : List Span :=
  Span.group context (changePlaces script)

section Windows

variable {script : List (Edit Line)} {context place : Nat} {s t : Span} {w : Window}
  {e : Edit Line}

theorem windows_eq_map_spans (script : List (Edit Line)) (context : Nat) :
    windows script context = (spans script context).map (Span.window context script.length) := rfl

theorem lt_length_of_mem_changePlaces (h : place ∈ changePlaces script) :
    place < script.length := by
  obtain ⟨e, he, -⟩ := mem_changePlaces.mp h
  exact (List.getElem?_eq_some_iff.mp he).1

/-- Of the changes, the window of a span shows those of the span and no other. -/
theorem shows_window_iff (hs : s ∈ spans script context) (hplace : place ∈ changePlaces script) :
    (s.window context script.length).Shows place ↔ s.first ≤ place ∧ place ≤ s.last := by
  have hsorted := changePlaces_pairwise script
  have hlength := lt_length_of_mem_changePlaces hplace
  simp only [Window.Shows, Span.window]
  constructor
  · rintro ⟨hstart, hstop⟩
    obtain ⟨t, ht, hfirst, hlast⟩ := Span.exists_mem_group context hsorted hplace
    rcases Span.eq_or_apart hsorted hs ht with rfl | ⟨hapart, -⟩ | ⟨hapart, -⟩
    · exact ⟨hfirst, hlast⟩
    · omega
    · omega
  · rintro ⟨hfirst, hlast⟩
    omega

/-- Nothing changes between the start of the window and the first change of its span. -/
theorem unchanged_before_first (hs : s ∈ spans script context) :
    Unchanged script (s.window context script.length).start s.first := by
  have hsorted := changePlaces_pairwise script
  have hle := Span.first_le_last hsorted hs
  have hlast := lt_length_of_mem_changePlaces (Span.last_mem hsorted hs)
  refine unchanged_of_not_mem fun i hi hi' himem => ?_
  have hshows : (s.window context script.length).Shows i := by
    refine ⟨hi, ?_⟩
    simp only [Span.window]
    omega
  have := ((shows_window_iff hs himem).mp hshows).1
  omega

/-- Nothing changes between the last change of a span and the end of its window. -/
theorem unchanged_behind_last (hs : s ∈ spans script context) :
    Unchanged script (s.last + 1) (s.window context script.length).stop := by
  have hle := Span.first_le_last (changePlaces_pairwise script) hs
  refine unchanged_of_not_mem fun i hi hi' himem => ?_
  have hshows : (s.window context script.length).Shows i := by
    refine ⟨?_, hi'⟩
    simp only [Span.window]
    omega
  have := ((shows_window_iff hs himem).mp hshows).2
  omega

/-! ### What is shown around the changes -/

/-- A window, cut at a place it shows. -/
theorem Window.edits_eq_append (hshows : w.Shows place) (he : script[place]? = some e) :
    w.edits script
      = Window.edits ⟨w.start, place⟩ script ++ e :: Window.edits ⟨place + 1, w.stop⟩ script := by
  obtain ⟨hstart, hstop⟩ := hshows
  obtain ⟨hplace, rfl⟩ := List.getElem?_eq_some_iff.mp he
  have hlength : (Window.edits ⟨w.start, place⟩ script).length = place - w.start := by
    simp only [Window.edits, List.length_take, List.length_drop]
    omega
  have hsucc : w.stop - w.start - (place - w.start) = w.stop - (place + 1) + 1 := by omega
  rw [Window.edits, Window.drop_start (w := ⟨w.start, place⟩) hstart script,
    List.drop_eq_getElem_cons hplace, List.take_append, hlength, hsucc, List.take_succ_cons,
    List.take_of_length_le (by omega)]
  rfl

theorem Window.length_edits (hstop : w.stop ≤ script.length) :
    (w.edits script).length = w.stop - w.start := by
  simp only [Window.edits, List.length_take, List.length_drop]
  omega

/-- The whole script, seen as a window. -/
theorem Window.edits_whole (script : List (Edit Line)) :
    Window.edits ⟨0, script.length⟩ script = script := by
  simp [Window.edits]

/-- Up to its first change a window keeps everything. -/
theorem keptBefore_edits (hplace : place ∈ changePlaces script) (hshows : w.Shows place)
    (hunchanged : Unchanged script w.start place) :
    Edit.keptBefore (w.edits script) = place - w.start := by
  obtain ⟨e, he, hchange⟩ := mem_changePlaces.mp hplace
  have hlength := lt_length_of_mem_changePlaces hplace
  rw [Window.edits_eq_append hshows he,
    Edit.keptBefore_append_cons hunchanged.isChange_eq_false hchange,
    Window.length_edits (Nat.le_of_lt hlength)]

/-- Behind its last change a window keeps everything. -/
theorem keptBehind_edits (hplace : place ∈ changePlaces script) (hshows : w.Shows place)
    (hstop : w.stop ≤ script.length) (hunchanged : Unchanged script (place + 1) w.stop) :
    Edit.keptBehind (w.edits script) = w.stop - (place + 1) := by
  obtain ⟨e, he, hchange⟩ := mem_changePlaces.mp hplace
  rw [Window.edits_eq_append hshows he,
    Edit.keptBehind_append_cons hunchanged.isChange_eq_false hchange,
    Window.length_edits (w := ⟨place + 1, w.stop⟩) hstop]

/-- Before the changes of a span, its window shows the context, or all there is. -/
theorem keptBefore_window (hs : s ∈ spans script context) :
    Edit.keptBefore ((s.window context script.length).edits script) = min context s.first := by
  have hsorted := changePlaces_pairwise script
  have hfirst := Span.first_mem hsorted hs
  have hshows := (shows_window_iff hs hfirst).mpr ⟨Nat.le_refl _, Span.first_le_last hsorted hs⟩
  rw [keptBefore_edits hfirst hshows (unchanged_before_first hs), Span.window]
  simp only
  omega

/-- Behind the changes of a span, its window shows the context, or all there is. -/
theorem keptBehind_window (hs : s ∈ spans script context) :
    Edit.keptBehind ((s.window context script.length).edits script)
      = min context (script.length - (s.last + 1)) := by
  have hsorted := changePlaces_pairwise script
  have hlast := Span.last_mem hsorted hs
  have hlength := lt_length_of_mem_changePlaces hlast
  have hshows := (shows_window_iff hs hlast).mpr ⟨Span.first_le_last hsorted hs, Nat.le_refl _⟩
  rw [keptBehind_edits hlast hshows (Nat.min_le_right _ _) (unchanged_behind_last hs), Span.window]
  simp only
  omega

end Windows

end TwinRun
