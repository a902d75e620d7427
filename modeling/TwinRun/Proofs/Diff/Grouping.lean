import TwinRun.Proofs.Diff.Context
import TwinRun.Proofs.Diff.Script

/-!
How the changes of a script are grouped into hunks.

`Grouping` says what the hunks of a script are: every change is shown once, two neighbouring changes
share a hunk exactly if no more than twice the context is kept between them, a hunk starts and ends
with the context unless the script does not have as much, and between two hunks something is left
out.

* `spans_apart`, `spans_mono`: the spans in the order of their list.
* `windows_once`, `windows_shares`, `contextBefore_ofScript`, `contextBehind_ofScript`,
  `windows_apart`, `exists_left_out`: the parts of the grouping.
* `diff_grouping`: the hunks of every diff are grouped so.
-/

namespace TwinRun

/-! ### By their place in the list -/

section Numbers

variable {script : List (Edit Line)} {context k l : Nat} {s t : Span} {v w : Window}

theorem spans_apart (hs : (spans script context)[k]? = some s)
    (ht : (spans script context)[l]? = some t) (hkl : k < l) :
    s.last + 2 * context + 1 < t.first := by
  obtain ⟨hk, rfl⟩ := List.getElem?_eq_some_iff.mp hs
  obtain ⟨hl, rfl⟩ := List.getElem?_eq_some_iff.mp ht
  exact (List.pairwise_iff_getElem.mp
    (Span.group_apart context (changePlaces_pairwise script)) k l hk hl hkl).1

/-- Later spans neither start nor end before earlier ones. -/
theorem spans_mono (hs : (spans script context)[k]? = some s)
    (ht : (spans script context)[l]? = some t) (hkl : k ≤ l) :
    s.first ≤ t.first ∧ s.last ≤ t.last := by
  have hsorted := changePlaces_pairwise script
  rcases Nat.eq_or_lt_of_le hkl with rfl | hkl
  · obtain rfl : s = t := Option.some.inj (hs.symm.trans ht)
    exact ⟨Nat.le_refl _, Nat.le_refl _⟩
  · have hapart := spans_apart hs ht hkl
    have hsle := Span.first_le_last hsorted (List.mem_of_getElem? hs)
    have htle := Span.first_le_last hsorted (List.mem_of_getElem? ht)
    omega

/-- Every change lies in the span in some place of the list. -/
theorem exists_span_at (context : Nat) {place : Nat} (h : place ∈ changePlaces script) :
    ∃ (k : Nat) (s : Span), (spans script context)[k]? = some s ∧ s.first ≤ place ∧
      place ≤ s.last := by
  obtain ⟨s, hs, hbounds⟩ := Span.exists_mem_group context (changePlaces_pairwise script) h
  obtain ⟨k, hk⟩ := List.mem_iff_getElem?.mp hs
  exact ⟨k, s, hk, hbounds⟩

/-- Before the first span nothing changes. -/
theorem keptBefore_eq_first (hs : (spans script context)[0]? = some s) :
    Edit.keptBefore script = s.first := by
  have hfirst := Span.first_mem (changePlaces_pairwise script) (List.mem_of_getElem? hs)
  have hunchanged : Unchanged script 0 s.first := by
    refine unchanged_of_not_mem fun i _ hi himem => ?_
    obtain ⟨l, t, ht, hfirst', -⟩ := exists_span_at context himem
    have := (spans_mono hs ht (Nat.zero_le l)).1
    omega
  have hkept := keptBefore_edits (w := ⟨0, script.length⟩) hfirst
    ⟨Nat.zero_le _, lt_length_of_mem_changePlaces hfirst⟩ hunchanged
  rwa [Window.edits_whole] at hkept

/-- Behind the last span nothing changes. -/
theorem keptBehind_eq_last (hs : (spans script context)[k]? = some s)
    (hk : k + 1 = (spans script context).length) :
    Edit.keptBehind script = script.length - (s.last + 1) := by
  have hlast := Span.last_mem (changePlaces_pairwise script) (List.mem_of_getElem? hs)
  have hunchanged : Unchanged script (s.last + 1) script.length := by
    refine unchanged_of_not_mem fun i hi _ himem => ?_
    obtain ⟨l, t, ht, -, hlast'⟩ := exists_span_at context himem
    have hl := (List.getElem?_eq_some_iff.mp ht).1
    have := (spans_mono ht hs (by omega)).2
    omega
  have hkept := keptBehind_edits (w := ⟨0, script.length⟩) hlast
    ⟨Nat.zero_le _, lt_length_of_mem_changePlaces hlast⟩ (Nat.le_refl _) hunchanged
  rwa [Window.edits_whole] at hkept

/-- Between two spans nothing changes. -/
theorem unchanged_between (hs : (spans script context)[k]? = some s)
    (ht : (spans script context)[k + 1]? = some t) : Unchanged script (s.last + 1) t.first := by
  refine unchanged_of_not_mem fun i hi hi' himem => ?_
  obtain ⟨l, u, hu, hfirst, hlast⟩ := exists_span_at context himem
  rcases Nat.lt_or_ge k l with hkl | hlk
  · have := (spans_mono ht hu hkl).1
    omega
  · have := (spans_mono hu hs hlk).2
    omega

/-- The window in a place of the list is that of the span there. -/
theorem exists_span_of_window (hw : (windows script context)[k]? = some w) :
    ∃ s, (spans script context)[k]? = some s ∧ s.window context script.length = w := by
  rw [windows_eq_map_spans, List.getElem?_map] at hw
  exact Option.map_eq_some_iff.mp hw

end Numbers

/-! ### Hunks -/

section Hunks

variable {script : List (Edit Line)} {context k l place : Nat} {v w : Window} {h : Hunk}

/-- The hunks show the edits of the windows. -/
theorem Hunk.lines_ofScript (script : List (Edit Line)) (context : Nat) :
    (ofScript script context).map lines
      = (windows script context).map fun w => (w.edits script).map DiffLine.ofEdit := by
  rw [ofScript, List.map_map]
  refine List.map_congr_left fun w hw => ?_
  obtain ⟨hstop, hlength⟩ := (windows_tile script context).window_bounds w hw
  rw [Function.comp_apply, NumberedScript.hunk_eq hstop.le hlength]

/-- The hunk in a place of the list shows the window of the span there. -/
theorem exists_span_of_hunk (hh : (Hunk.ofScript script context)[k]? = some h) :
    ∃ s, (spans script context)[k]? = some s ∧
      h.lines = ((s.window context script.length).edits script).map DiffLine.ofEdit := by
  have hlines := congrArg (·[k]?) (Hunk.lines_ofScript script context)
  simp only [List.getElem?_map, hh, Option.map_some] at hlines
  obtain ⟨w, hw, hedits⟩ := Option.map_eq_some_iff.mp hlines.symm
  obtain ⟨s, hs, rfl⟩ := exists_span_of_window hw
  exact ⟨s, hs, hedits.symm⟩

/-- The windows of a tiling hold all changes. -/
theorem Tiles.filter_isChange {pos : Nat} {ws : List Window} (h : Tiles script pos ws)
    (hpos : pos ≤ script.length) :
    ws.flatMap (fun w => (w.edits script).filter Edit.isChange)
      = (script.drop pos).filter Edit.isChange := by
  have hnone : ∀ {a b : Nat}, Unchanged script a b →
      (Window.edits ⟨a, b⟩ script).filter Edit.isChange = [] := fun hunchanged =>
    List.filter_eq_nil_iff.mpr fun e he => by simp [hunchanged.isChange_eq_false e he]
  induction h with
  | @rest pos hrest =>
      rw [Window.drop_start (w := ⟨pos, script.length⟩) hpos, List.filter_append, hnone hrest,
        List.drop_length]
      rfl
  | @window pos w ws hstart hstop hlength hgap htail ih =>
      rw [List.flatMap_cons, ih hlength, Window.drop_start (w := ⟨pos, w.start⟩) hstart,
        Window.drop_start hstop.le, List.filter_append, List.filter_append, hnone hgap,
        List.nil_append]

/-- How hunks show a script through windows. -/
structure Grouping (script : List (Edit Line)) (context : Nat) (ws : List Window)
    (hunks : List Hunk) : Prop where
  /-- Each hunk shows the edits of one window, and each window has something in it. -/
  lines : hunks.map Hunk.lines = ws.map fun w => (w.edits script).map DiffLine.ofEdit
  inside : ∀ w ∈ ws, w.start < w.stop ∧ w.stop ≤ script.length
  /-- Every change lies in exactly one window, -/
  once : ∀ (place : Nat) (e : Edit Line), script[place]? = some e → e.isChange = true →
    ∃! k : Nat, ∃ w, ws[k]? = some w ∧ w.Shows place
  /-- and the hunks show the changes in order, none repeated and none dropped. -/
  changes : hunks.flatMap (fun h => h.lines.filter (·.kind ≠ .context))
    = (script.filter Edit.isChange).map DiffLine.ofEdit
  /-- Two neighbouring changes share a window exactly if no more than twice the context is kept
  between them. -/
  shares : ∀ before x gap y after, script = before ++ x :: (gap ++ y :: after) →
    x.isChange = true → y.isChange = true → (∀ e ∈ gap, e.isChange = false) →
    ((∃ w ∈ ws, w.Shows before.length ∧ w.Shows (before.length + gap.length + 1))
      ↔ gap.length ≤ 2 * context)
  /-- A hunk starts with the context; the first one with what is kept before it, if that is less. -/
  before : ∀ (k : Nat) (h : Hunk), hunks[k]? = some h →
    h.contextBefore = if k = 0 then min context (Edit.keptBefore script) else context
  /-- A hunk ends with the context; the last one with what is kept behind it, if that is less. -/
  behind : ∀ (k : Nat) (h : Hunk), hunks[k]? = some h → h.contextBehind
    = if k + 1 = hunks.length then min context (Edit.keptBehind script) else context
  /-- The windows are in order and do not touch: -/
  apart : ws.Pairwise fun v w => v.stop < w.start
  /-- between two that follow each other a kept line is left out. -/
  left_out : ∀ (k : Nat) (v w : Window), ws[k]? = some v → ws[k + 1]? = some w →
    ∃ place line, v.stop ≤ place ∧ place < w.start ∧ script[place]? = some (.equal line)

/-- A change is shown in exactly one window. -/
theorem windows_once (hplace : place ∈ changePlaces script) :
    ∃! k : Nat, ∃ w, (windows script context)[k]? = some w ∧ w.Shows place := by
  obtain ⟨k, s, hs, hbounds⟩ := exists_span_at context hplace
  refine ⟨k, ⟨_, by rw [windows_eq_map_spans, List.getElem?_map, hs, Option.map_some],
    (shows_window_iff (List.mem_of_getElem? hs) hplace).mpr hbounds⟩, ?_⟩
  rintro l ⟨w, hw, hshows⟩
  obtain ⟨t, ht, rfl⟩ := exists_span_of_window hw
  have hbounds' := (shows_window_iff (List.mem_of_getElem? ht) hplace).mp hshows
  rcases Nat.lt_trichotomy l k with hlk | rfl | hkl
  · have := spans_apart ht hs hlk
    omega
  · rfl
  · have := spans_apart hs ht hkl
    omega

/-- Two neighbouring changes, `gap` kept items apart, share a window exactly if they are near. -/
theorem windows_shares {before gap after : List (Edit Line)} {x y : Edit Line}
    (hscript : script = before ++ x :: (gap ++ y :: after)) (hx : x.isChange = true)
    (hy : y.isChange = true) (hgap : ∀ e ∈ gap, e.isChange = false) :
    (∃ w ∈ windows script context,
        w.Shows before.length ∧ w.Shows (before.length + gap.length + 1))
      ↔ gap.length ≤ 2 * context := by
  have hsorted := changePlaces_pairwise script
  have hxmem : before.length ∈ changePlaces script :=
    mem_changePlaces.mpr ⟨x, by simp [hscript], hx⟩
  have hymem : before.length + gap.length + 1 ∈ changePlaces script :=
    mem_changePlaces.mpr ⟨y, by simp [hscript, Nat.add_assoc], hy⟩
  -- The gap holds no change, so `y` is the next one after `x`.
  have hbetween : ∀ i ∈ changePlaces script, before.length < i →
      before.length + gap.length + 1 ≤ i := by
    intro i hi hlt
    obtain ⟨e, he, hchange⟩ := mem_changePlaces.mp hi
    by_contra hinside
    obtain ⟨j, rfl⟩ : ∃ j, i = before.length + (j + 1) := ⟨i - before.length - 1, by omega⟩
    rw [hscript, List.getElem?_append_right (by omega), Nat.add_sub_cancel_left,
      List.getElem?_cons_succ, List.getElem?_append_left (by omega)] at he
    rw [hgap e (List.mem_of_getElem? he)] at hchange
    cases hchange
  constructor
  · rintro ⟨w, hw, hxshows, hyshows⟩
    rw [windows_eq_map_spans] at hw
    obtain ⟨s, hs, rfl⟩ := List.mem_map.mp hw
    have hnear := Span.near_of_mem_group hsorted hs hxmem hymem (by omega) hbetween
      ((shows_window_iff hs hxmem).mp hxshows).1 ((shows_window_iff hs hymem).mp hyshows).2
    omega
  · intro hnear
    obtain ⟨k, s, hs, hsbounds⟩ := exists_span_at context hxmem
    obtain ⟨l, t, ht, htbounds⟩ := exists_span_at context hymem
    have hsmem := List.mem_of_getElem? hs
    -- Were they in different spans, these would be too far apart for the gap.
    rcases Nat.lt_trichotomy k l with hkl | rfl | hlk
    · have := spans_apart hs ht hkl
      omega
    · obtain rfl : s = t := Option.some.inj (hs.symm.trans ht)
      exact ⟨_, List.mem_map_of_mem hsmem, (shows_window_iff hsmem hxmem).mpr hsbounds,
        (shows_window_iff hsmem hymem).mpr htbounds⟩
    · have := spans_apart ht hs hlk
      omega

/-- The context before the changes of a hunk. -/
theorem contextBefore_ofScript (hh : (Hunk.ofScript script context)[k]? = some h) :
    h.contextBefore = if k = 0 then min context (Edit.keptBefore script) else context := by
  obtain ⟨s, hs, hlines⟩ := exists_span_of_hunk hh
  rw [Hunk.contextBefore_eq hlines, keptBefore_window (List.mem_of_getElem? hs)]
  cases k with
  | zero => rw [if_pos rfl, keptBefore_eq_first hs]
  | succ k =>
      obtain ⟨hlt, -⟩ := List.getElem?_eq_some_iff.mp hs
      have := spans_apart (List.getElem?_eq_getElem (Nat.lt_of_succ_lt hlt)) hs (Nat.lt_succ_self k)
      rw [if_neg (Nat.succ_ne_zero k)]
      omega

/-- The context behind the changes of a hunk. -/
theorem contextBehind_ofScript (hh : (Hunk.ofScript script context)[k]? = some h) :
    h.contextBehind = if k + 1 = (Hunk.ofScript script context).length
      then min context (Edit.keptBehind script) else context := by
  obtain ⟨s, hs, hlines⟩ := exists_span_of_hunk hh
  have hlength : (Hunk.ofScript script context).length = (spans script context).length := by
    rw [Hunk.ofScript, List.length_map, windows_eq_map_spans, List.length_map]
  rw [Hunk.contextBehind_eq hlines, keptBehind_window (List.mem_of_getElem? hs), hlength]
  obtain ⟨hlt, -⟩ := List.getElem?_eq_some_iff.mp hs
  rcases Nat.eq_or_lt_of_le (Nat.succ_le_of_lt hlt) with hlast | hlt'
  · rw [if_pos hlast, keptBehind_eq_last hs hlast]
  · have hnext := List.getElem?_eq_getElem hlt'
    have hapart := spans_apart hs hnext (Nat.lt_succ_self k)
    have hlength := lt_length_of_mem_changePlaces
      (Span.first_mem (changePlaces_pairwise script) (List.mem_of_getElem? hnext))
    rw [if_neg (Nat.ne_of_lt hlt')]
    omega

/-- The windows are in order and do not touch. -/
theorem windows_apart (script : List (Edit Line)) (context : Nat) :
    (windows script context).Pairwise fun v w => v.stop < w.start := by
  rw [windows_eq_map_spans, List.pairwise_map]
  refine (Span.group_apart context (changePlaces_pairwise script)).imp ?_
  rintro s t ⟨hapart, -⟩
  simp only [Span.window]
  omega

/-- Between two windows that follow each other a kept line is left out. -/
theorem exists_left_out (hv : (windows script context)[k]? = some v)
    (hw : (windows script context)[k + 1]? = some w) :
    ∃ place line, v.stop ≤ place ∧ place < w.start ∧ script[place]? = some (.equal line) := by
  obtain ⟨s, hs, rfl⟩ := exists_span_of_window hv
  obtain ⟨t, ht, rfl⟩ := exists_span_of_window hw
  have hapart := spans_apart hs ht (Nat.lt_succ_self k)
  have hlength := lt_length_of_mem_changePlaces
    (Span.first_mem (changePlaces_pairwise script) (List.mem_of_getElem? ht))
  -- The first place behind the window is still before the next change.
  have hplace : s.last + context + 1 < script.length := by omega
  have hkept : script[s.last + context + 1].isChange = false :=
    unchanged_between hs ht _ (by omega) (by omega) _ (List.getElem?_eq_getElem hplace)
  obtain ⟨line, hline⟩ : ∃ line, script[s.last + context + 1] = .equal line := by
    cases hedit : script[s.last + context + 1] with
    | equal line => exact ⟨line, rfl⟩
    | delete line => rw [hedit] at hkept; cases hkept
    | insert line => rw [hedit] at hkept; cases hkept
  refine ⟨s.last + context + 1, line, Nat.min_le_left _ _, ?_, ?_⟩
  · simp only [Span.window]
    omega
  · rw [List.getElem?_eq_getElem hplace, hline]

/-- The hunks of a script show it as they should. -/
theorem grouping_ofScript (script : List (Edit Line)) (context : Nat) :
    Grouping script context (windows script context) (Hunk.ofScript script context) where
  lines := Hunk.lines_ofScript script context
  inside := (windows_tile script context).window_bounds
  once _ e he hchange := windows_once (mem_changePlaces.mpr ⟨e, he, hchange⟩)
  changes := by
    have hall := (windows_tile script context).filter_isChange (Nat.zero_le _)
    rw [List.drop_zero] at hall
    rw [← List.flatMap_map, Hunk.lines_ofScript, List.flatMap_map, ← hall, List.map_flatMap]
    simp only [DiffLine.filter_map_ofEdit]
  shares _ _ _ _ _ := windows_shares
  before _ _ := contextBefore_ofScript
  behind _ _ := contextBehind_ofScript
  apart := windows_apart script context
  left_out _ _ _ := exists_left_out

end Hunks

/-- **Exact grouping.** The hunks of a diff show every change once; two neighbouring changes share
a hunk exactly if no more than twice the context is kept between them; a hunk has the whole context
on both sides unless the script begins or ends there; and the hunks are in order, with something
left out between any two. -/
theorem diff_grouping (old new : Bytes) (context : Nat) :
    let script := Script.ofLines (Line.split old) (Line.split new)
    Grouping script context (windows script context) (diff old new context) :=
  grouping_ofScript _ context

end TwinRun
