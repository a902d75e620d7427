import Mathlib.Data.Fintype.EquivFin
import Mathlib.Data.List.Permutation
import TwinRun.Proofs.Diff.Grouping

/-!
More context around the same changes.

A larger context groups the same places into spans that are no smaller (`Span.exists_wider`): if a
span went on behind the end of a wider one, the next place there would be near enough for the wider
one, too. So the windows for one context lie inside those for a larger one.

* `Widening`: how the hunks for one context relate to those for a larger one.
* `diff_widening`: the hunks of every diff do so.
-/

namespace TwinRun

/-! ### Spans -/

namespace Span

variable {context context' : Nat} {places : List Nat} {s : Span} {a b : Nat}

/-- Behind a place, up to a later one, there is a next one. -/
theorem exists_next (hb : b ∈ places) (hab : a < b) :
    ∃ n ∈ places, a < n ∧ n ≤ b ∧ ∀ i ∈ places, a < i → n ≤ i := by
  have hlater : ∃ n, n ∈ places ∧ a < n := ⟨b, hb, hab⟩
  obtain ⟨hmem, hlt⟩ := Nat.find_spec hlater
  exact ⟨Nat.find hlater, hmem, hlt, Nat.find_min' hlater ⟨hb, hab⟩,
    fun i hi hai => Nat.find_min' hlater ⟨hi, hai⟩⟩

/-- A span lies inside a span for any larger context. -/
theorem exists_wider (hsorted : places.Pairwise (· < ·)) (hcontext : context ≤ context')
    (hs : s ∈ group context places) :
    ∃ t ∈ group context' places, t.first ≤ s.first ∧ s.last ≤ t.last := by
  obtain ⟨t, ht, hfirst, hlast⟩ := exists_mem_group context' hsorted (first_mem hsorted hs)
  refine ⟨t, ht, hfirst, ?_⟩
  by_contra hshort
  -- The next place behind `t` is still in `s`, and so is near to the end of `t`.
  obtain ⟨n, hn, htn, hns, hnext⟩ := exists_next (last_mem hsorted hs) (Nat.lt_of_not_le hshort)
  have hnear := near_of_mem_group hsorted hs (last_mem hsorted ht) hn htn hnext hlast hns
  obtain ⟨u, hu, hufirst, hulast⟩ := exists_mem_group context' hsorted hn
  rcases eq_or_apart hsorted ht hu with rfl | ⟨hapart, -⟩ | ⟨hapart, -⟩
  · omega
  · omega
  · omega

end Span

/-! ### Windows -/

/-- The other window shows all that this one shows. -/
def Window.Inside (v w : Window) : Prop := w.start ≤ v.start ∧ v.stop ≤ w.stop

section Windows

variable {script : List (Edit Line)} {context context' k k' l l' : Nat} {v v' w w' : Window}

theorem window_bounds (hv : (windows script context)[k]? = some v) :
    v.start < v.stop ∧ v.stop ≤ script.length :=
  (windows_tile script context).window_bounds v (List.mem_of_getElem? hv)

/-- A later window starts behind an earlier one. -/
theorem stop_lt_start (hv : (windows script context)[k]? = some v)
    (hv' : (windows script context)[k']? = some v') (hlt : k < k') : v.stop < v'.start := by
  obtain ⟨hk, rfl⟩ := List.getElem?_eq_some_iff.mp hv
  obtain ⟨hk', rfl⟩ := List.getElem?_eq_some_iff.mp hv'
  exact List.pairwise_iff_getElem.mp (windows_apart script context) k k' hk hk' hlt

/-- A window lies inside a window for any larger context. -/
theorem exists_wider_window (hcontext : context ≤ context')
    (hv : (windows script context)[k]? = some v) :
    ∃ (l : Nat) (w : Window), (windows script context')[l]? = some w ∧ v.Inside w := by
  have hsorted := changePlaces_pairwise script
  obtain ⟨s, hs, rfl⟩ := exists_span_of_window hv
  obtain ⟨t, ht, hfirst, hlast⟩ :=
    Span.exists_wider hsorted hcontext (List.mem_of_getElem? hs)
  obtain ⟨l, hl⟩ := List.mem_iff_getElem?.mp ht
  refine ⟨l, t.window context' script.length, ?_, ?_, ?_⟩
  · rw [windows_eq_map_spans, List.getElem?_map, spans, hl, Option.map_some]
  · simp only [Span.window]
    omega
  · simp only [Span.window]
    omega

/-- Windows that hold windows of which one comes later do not come in the other order. -/
theorem le_of_inside (hv : (windows script context)[k]? = some v)
    (hv' : (windows script context)[k']? = some v') (hkk : k ≤ k')
    (hw : (windows script context')[l]? = some w) (hw' : (windows script context')[l']? = some w')
    (hinside : v.Inside w) (hinside' : v'.Inside w') : l ≤ l' := by
  by_contra hlt
  have happart := stop_lt_start hw' hw (Nat.lt_of_not_le hlt)
  have hbounds := window_bounds hv
  have hbounds' := window_bounds hv'
  obtain ⟨hstart, hstop⟩ := hinside
  obtain ⟨hstart', hstop'⟩ := hinside'
  rcases Nat.eq_or_lt_of_le hkk with rfl | hkk
  · obtain rfl : v = v' := Option.some.inj (hv.symm.trans hv')
    omega
  · have := stop_lt_start hv hv' hkk
    omega

/-- A window lies inside one window only. -/
theorem eq_of_inside (hv : (windows script context)[k]? = some v)
    (hw : (windows script context')[l]? = some w) (hw' : (windows script context')[l']? = some w')
    (hinside : v.Inside w) (hinside' : v.Inside w') : l = l' :=
  Nat.le_antisymm (le_of_inside hv hv le_rfl hw hw' hinside hinside')
    (le_of_inside hv hv le_rfl hw' hw hinside' hinside)

/-- A window holds a window for any smaller context: that of a span with one of its changes. -/
theorem exists_narrower_window (hcontext : context ≤ context')
    (hw : (windows script context')[l]? = some w) :
    ∃ (k : Nat) (v : Window), (windows script context)[k]? = some v ∧ v.Inside w := by
  have hsorted := changePlaces_pairwise script
  obtain ⟨t, ht, rfl⟩ := exists_span_of_window hw
  have htmem := List.mem_of_getElem? ht
  have hfirst := Span.first_mem hsorted htmem
  have hle := Span.first_le_last hsorted htmem
  obtain ⟨k, s, hs, hsbounds⟩ := exists_span_at context hfirst
  have hv : (windows script context)[k]? = some (s.window context script.length) := by
    rw [windows_eq_map_spans, List.getElem?_map, hs, Option.map_some]
  obtain ⟨l', w', hw', hinside⟩ := exists_wider_window hcontext hv
  -- The change is shown in both windows for the larger context, so they are one.
  have hshows := (shows_window_iff (List.mem_of_getElem? hs) hfirst).mpr hsbounds
  have hshows' : w'.Shows t.first := ⟨hinside.1.trans hshows.1, hshows.2.trans_le hinside.2⟩
  obtain rfl : l = l' := (windows_once hfirst).unique
    ⟨_, hw, (shows_window_iff htmem hfirst).mpr ⟨le_rfl, hle⟩⟩ ⟨w', hw', hshows'⟩
  obtain rfl := Option.some.inj (hw.symm.trans hw')
  exact ⟨k, _, hv, hinside⟩

/-- There are no more windows for a larger context. -/
theorem length_windows_le (script : List (Edit Line)) (hcontext : context ≤ context') :
    (windows script context').length ≤ (windows script context).length := by
  have hholds : ∀ l : Fin (windows script context').length,
      ∃ k : Fin (windows script context).length,
        (windows script context)[k].Inside (windows script context')[l] := by
    intro l
    obtain ⟨k, v, hv, hinside⟩ :=
      exists_narrower_window hcontext (List.getElem?_eq_getElem l.isLt)
    obtain ⟨hk, rfl⟩ := List.getElem?_eq_some_iff.mp hv
    exact ⟨⟨k, hk⟩, hinside⟩
  -- Each wide window holds a narrow one, and no narrow one lies in two wide ones.
  choose f hf using hholds
  have hinjective : Function.Injective f := by
    intro l l' heq
    have hinside' := hf l'
    rw [← heq] at hinside'
    exact Fin.ext (eq_of_inside (List.getElem?_eq_getElem (f l).isLt)
      (List.getElem?_eq_getElem l.isLt) (List.getElem?_eq_getElem l'.isLt) (hf l) hinside')
  have hcard := Fintype.card_le_of_injective f hinjective
  rwa [Fintype.card_fin, Fintype.card_fin] at hcard

end Windows

/-! ### Hunks -/

/-- The other hunk shows all that this one shows: its lines in one stretch, and each range that is
not empty inside the range of the other one. -/
structure Hunk.Inside (h h' : Hunk) : Prop where
  lines : h.lines <:+: h'.lines
  old : h.oldLength ≠ 0 → h'.oldStart ≤ h.oldStart ∧
    h.oldStart + h.oldLength ≤ h'.oldStart + h'.oldLength
  new : h.newLength ≠ 0 → h'.newStart ≤ h.newStart ∧
    h.newStart + h.newLength ≤ h'.newStart + h'.newLength

section Hunks

variable {script : List (Edit Line)} {context context' : Nat} {v w : Window}

/-- A stretch of edits, cut in two. -/
theorem Window.edits_append {a b c : Nat} (hab : a ≤ b) (hbc : b ≤ c)
    (script : List (Edit Line)) :
    Window.edits ⟨a, c⟩ script = Window.edits ⟨a, b⟩ script ++ Window.edits ⟨b, c⟩ script := by
  have hlength : c - a = (b - a) + (c - b) := by omega
  have hdrop : a + (b - a) = b := by omega
  simp only [Window.edits]
  rw [hlength, List.take_add, List.drop_drop, hdrop]

/-- A range that is not empty lies inside a range with lines more before and behind it. -/
theorem rangeStart_inside {length : Nat} (h : length ≠ 0) (before gap behind : Nat) :
    rangeStart before (gap + length + behind) ≤ rangeStart (before + gap) length ∧
      rangeStart (before + gap) length + length
        ≤ rangeStart before (gap + length + behind) + (gap + length + behind) := by
  rw [rangeStart, rangeStart, if_neg h, if_neg (by omega)]
  omega

/-- The hunk of a window shows all that the hunk of a window inside it shows. -/
theorem NumberedScript.hunk_inside (hinside : v.Inside w) (hv : v.start ≤ v.stop)
    (hw : w.stop ≤ script.length) :
    ((ofScript script).hunk v).Inside ((ofScript script).hunk w) := by
  obtain ⟨hstart, hstop⟩ := hinside
  have hbefore := Window.take_stop (w := ⟨w.start, v.start⟩) hstart script
  have hedits : w.edits script = Window.edits ⟨w.start, v.start⟩ script ++ v.edits script
      ++ Window.edits ⟨v.stop, w.stop⟩ script := by
    rw [List.append_assoc, ← Window.edits_append hv hstop,
      ← Window.edits_append hstart (hv.trans hstop)]
  generalize Window.edits ⟨w.start, v.start⟩ script = front at hbefore hedits
  generalize Window.edits ⟨v.stop, w.stop⟩ script = back at hedits
  simp only at hbefore
  rw [hunk_eq hv (hstop.trans hw), hunk_eq (hstart.trans (hv.trans hstop)) hw, hbefore, hedits]
  constructor
  · simp only [List.map_append]
    exact ⟨_, _, rfl⟩
  · intro hlength
    simp only [Edit.olds_append, List.length_append]
    exact rangeStart_inside hlength _ _ _
  · intro hlength
    simp only [Edit.news_append, List.length_append]
    exact rangeStart_inside hlength _ _ _

/-- The hunk in a place of the list is that of the window there. -/
theorem exists_window_of_hunk {k : Nat} {h : Hunk}
    (hh : (Hunk.ofScript script context)[k]? = some h) :
    ∃ v, (windows script context)[k]? = some v ∧ (NumberedScript.ofScript script).hunk v = h := by
  rw [Hunk.ofScript, List.getElem?_map] at hh
  exact Option.map_eq_some_iff.mp hh

/-- How hunks through windows relate to hunks through wider windows. -/
structure Widening (script : List (Edit Line)) (ws ws' : List Window) (hunks hunks' : List Hunk) :
    Prop where
  /-- Each hunk shows the edits of one window. -/
  lines : hunks.map Hunk.lines = ws.map fun w => (w.edits script).map DiffLine.ofEdit
  lines' : hunks'.map Hunk.lines = ws'.map fun w => (w.edits script).map DiffLine.ofEdit
  /-- The same changes are shown, in the same order. -/
  changes : hunks.flatMap (fun h => h.lines.filter (·.kind ≠ .context))
    = hunks'.flatMap fun h => h.lines.filter (·.kind ≠ .context)
  /-- Every window lies inside exactly one of the wider windows, -/
  inside : ∀ (k : Nat) (v : Window), ws[k]? = some v →
    ∃! l : Nat, ∃ w, ws'[l]? = some w ∧ v.Inside w
  /-- and then so do the hunks. -/
  hunks_inside : ∀ (k l : Nat) (v w : Window) (h h' : Hunk), ws[k]? = some v → ws'[l]? = some w →
    v.Inside w → hunks[k]? = some h → hunks'[l]? = some h' → h.Inside h'
  /-- Every wider window holds a window. -/
  holds : ∀ (l : Nat) (w : Window), ws'[l]? = some w →
    ∃ (k : Nat) (v : Window), ws[k]? = some v ∧ v.Inside w
  /-- The order is kept. -/
  ordered : ∀ (k k' l l' : Nat) (v v' w w' : Window), ws[k]? = some v → ws[k']? = some v' →
    k ≤ k' → ws'[l]? = some w → ws'[l']? = some w' → v.Inside w → v'.Inside w' → l ≤ l'
  fewer : hunks'.length ≤ hunks.length

/-- The hunks of a script with more context show the same through wider windows. -/
theorem widening_ofScript (script : List (Edit Line)) (hcontext : context ≤ context') :
    Widening script (windows script context) (windows script context')
      (Hunk.ofScript script context) (Hunk.ofScript script context') where
  lines := Hunk.lines_ofScript script context
  lines' := Hunk.lines_ofScript script context'
  changes := (grouping_ofScript script context).changes.trans
    (grouping_ofScript script context').changes.symm
  inside := by
    intro k v hv
    obtain ⟨l, w, hw, hinside⟩ := exists_wider_window hcontext hv
    refine ⟨l, ⟨w, hw, hinside⟩, ?_⟩
    rintro l' ⟨w', hw', hinside'⟩
    -- Wide windows do not overlap, so only one of them holds the narrow one.
    exact eq_of_inside hv hw' hw hinside' hinside
  hunks_inside := by
    intro k l v w h h' hv hw hinside hh hh'
    obtain ⟨u, hu, rfl⟩ := exists_window_of_hunk hh
    obtain ⟨u', hu', rfl⟩ := exists_window_of_hunk hh'
    obtain rfl := Option.some.inj (hu.symm.trans hv)
    obtain rfl := Option.some.inj (hu'.symm.trans hw)
    exact NumberedScript.hunk_inside hinside (window_bounds hv).1.le (window_bounds hw).2
  holds _ _ := exists_narrower_window hcontext
  ordered _ _ _ _ _ _ _ _ := le_of_inside
  fewer := by
    rw [Hunk.ofScript, Hunk.ofScript, List.length_map, List.length_map]
    exact length_windows_le script hcontext

end Hunks

/-- **The context changes the window, never the diff.** With more context a diff shows the same
changes in the same order; every hunk lies inside exactly one hunk for the larger context, with its
lines and with its ranges, each of those holds one at least, the order is kept, and there are no
more of them. -/
theorem diff_widening (old new : Bytes) {context context' : Nat} (hcontext : context ≤ context') :
    let script := Script.ofLines (Line.split old) (Line.split new)
    Widening script (windows script context) (windows script context')
      (diff old new context) (diff old new context') :=
  widening_ofScript _ hcontext

/-- Two changes with a kept line between them are two hunks without context, and one with it. -/
theorem diff_widening_joined :
    let old : Bytes := [97, 10, 98, 10, 99]
    let new : Bytes := [120, 10, 98, 10, 121]
    let script := Script.ofLines (Line.split old) (Line.split new)
    0 ≤ 1 ∧ windows script 0 = [⟨0, 2⟩, ⟨3, 5⟩] ∧ windows script 1 = [⟨0, 5⟩] ∧
      Widening script [⟨0, 2⟩, ⟨3, 5⟩] [⟨0, 5⟩] (diff old new 0) (diff old new 1) := by
  intro old new script
  have hscript : script = [.delete ⟨[97], true⟩, .insert ⟨[120], true⟩, .equal ⟨[98], true⟩,
      .delete ⟨[99], false⟩, .insert ⟨[121], false⟩] := by
    have htrim : Script.trim (Line.split old) (Line.split new)
        = ⟨[], [⟨[97], true⟩, ⟨[98], true⟩, ⟨[99], false⟩],
          [⟨[120], true⟩, ⟨[98], true⟩, ⟨[121], false⟩], []⟩ := by decide
    simp only [script, Script.ofLines, Script.Trimmed.middle_eq, htrim]
    cbv
  have hnarrow : windows script 0 = [⟨0, 2⟩, ⟨3, 5⟩] := by
    rw [hscript]
    decide
  have hwide : windows script 1 = [⟨0, 5⟩] := by
    rw [hscript]
    decide
  have hwidening := diff_widening old new (Nat.zero_le 1)
  refine ⟨Nat.zero_le 1, hnarrow, hwide, ?_⟩
  rw [← hnarrow, ← hwide]
  exact hwidening

end TwinRun
