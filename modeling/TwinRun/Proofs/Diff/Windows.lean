import Mathlib.Data.List.Basic
import TwinRun.Diff.Hunk

/-!
The windows of a script.

`Tiles script pos ws` says that, from the place `pos` on, the script consists of the windows `ws`
in order and of unchanged lines before, between and behind them. `windows_tile`: the windows of a
script tile it, whatever the context.
-/

namespace TwinRun

/-! ### Places of changes -/

/-- Where nothing changes, the two sides of a script are one. -/
theorem Edit.olds_eq_news {script : List (Edit Line)} (h : ∀ e ∈ script, e.isChange = false) :
    olds script = news script := by
  refine List.filterMap_congr fun e he => ?_
  cases e with
  | equal _ => rfl
  | delete _ => exact absurd (h _ he) (by simp [isChange])
  | insert _ => exact absurd (h _ he) (by simp [isChange])

/-- An edit is about an item of one side at least. -/
theorem Edit.length_le {α : Type} (script : List (Edit α)) :
    script.length ≤ (olds script).length + (news script).length := by
  induction script with
  | nil => exact Nat.zero_le _
  | cons e script ih =>
      simp only [olds, news, List.filterMap_cons] at ih ⊢
      cases e <;> simp [old?, new?] <;> omega

/-- No edit from place `a` up to but without place `b` changes anything. -/
def Unchanged (script : List (Edit Line)) (a b : Nat) : Prop :=
  ∀ i, a ≤ i → i < b → ∀ e, script[i]? = some e → e.isChange = false

theorem changePlaces_eq (script : List (Edit Line)) :
    changePlaces script = (script.zipIdx.filter fun p => p.1.isChange).map Prod.snd := by
  unfold changePlaces
  induction script.zipIdx with
  | nil => rfl
  | cons p ps ih =>
      obtain ⟨e, i⟩ := p
      cases he : e.isChange <;> simp [he, ih]

/-- The places of the changes are exactly those whose edit changes something. -/
theorem mem_changePlaces {script : List (Edit Line)} {i : Nat} :
    i ∈ changePlaces script ↔ ∃ e, script[i]? = some e ∧ e.isChange = true := by
  rw [changePlaces_eq]
  simp only [List.mem_map, List.mem_filter, List.mem_zipIdx_iff_getElem?, Prod.exists,
    exists_eq_right]

/-- A script without places of changes changes nothing. -/
theorem changePlaces_eq_nil {script : List (Edit Line)} :
    changePlaces script = [] ↔ ∀ e ∈ script, e.isChange = false := by
  rw [changePlaces_eq, List.map_eq_nil_iff, List.filter_eq_nil_iff]
  constructor
  · intro h e he
    obtain ⟨i, hi⟩ := List.mem_iff_getElem?.mp he
    simpa using h (e, i) (List.mem_zipIdx_iff_getElem?.mpr hi)
  · intro h p hp
    rw [h p.1 (List.fst_mem_of_mem_zipIdx hp)]
    exact Bool.false_ne_true

/-- The places of the changes are in order. -/
theorem changePlaces_pairwise (script : List (Edit Line)) :
    (changePlaces script).Pairwise (· < ·) := by
  have hsub : (changePlaces script).Sublist (List.range' 0 script.length) := by
    rw [changePlaces_eq, ← List.zipIdx_map_snd 0 script]
    exact List.filter_sublist.map Prod.snd
  exact List.Pairwise.sublist hsub List.pairwise_lt_range'

/-- Where no place of a change lies, nothing changes. -/
theorem unchanged_of_not_mem {script : List (Edit Line)} {a b : Nat}
    (h : ∀ i, a ≤ i → i < b → i ∉ changePlaces script) : Unchanged script a b := by
  intro i hi hi' e he
  by_contra hchange
  exact h i hi hi' (mem_changePlaces.mpr ⟨e, he, by simpa using hchange⟩)

/-! ### Grouping -/

/-- The spans from a span on that is still open, by recursion on the places behind it. -/
def Span.groupFrom (context : Nat) (current : Span) : (places : List Nat) → List Span
  | [] => [current]
  | place :: places =>
      if Span.reaches context current place then
        Span.groupFrom context { current with last := place } places
      else current :: Span.groupFrom context ⟨place, place⟩ places

/-- One step of grouping: the place joins the open span or opens the next one. -/
def Span.step (context : Nat) (s : List Span × Span) (place : Nat) : List Span × Span :=
  if Span.reaches context s.2 place then (s.1, { s.2 with last := place })
  else (s.2 :: s.1, ⟨place, place⟩)

theorem Span.foldl_step (context : Nat) (places : List Nat) (done : List Span) (current : Span) :
    ((places.foldl (Span.step context) (done, current)).2
        :: (places.foldl (Span.step context) (done, current)).1).reverse
      = done.reverse ++ Span.groupFrom context current places := by
  induction places generalizing done current with
  | nil => exact List.reverse_cons
  | cons place places ih =>
      rw [List.foldl_cons, Span.step, Span.groupFrom]
      by_cases h : Span.reaches context current place = true
      · rw [if_pos h, if_pos h]
        exact ih done { current with last := place }
      · rw [if_neg h, if_neg h, List.append_cons, ← List.reverse_cons]
        exact ih (current :: done) ⟨place, place⟩

/-- Grouping opens a span at the first place. -/
theorem Span.group_cons (context place : Nat) (places : List Nat) :
    Span.group context (place :: places) = Span.groupFrom context ⟨place, place⟩ places :=
  Span.foldl_step context places [] ⟨place, place⟩

theorem Span.groupFrom_ne_nil (context : Nat) (current : Span) (places : List Nat) :
    Span.groupFrom context current places ≠ [] := by
  induction places generalizing current with
  | nil => exact List.cons_ne_nil _ _
  | cons place places ih =>
      rw [Span.groupFrom]
      split
      · exact ih _
      · exact List.cons_ne_nil _ _

/-- There is a window as soon as there is a change. -/
theorem windows_eq_nil {script : List (Edit Line)} {context : Nat} :
    windows script context = [] ↔ changePlaces script = [] := by
  rw [windows, List.map_eq_nil_iff]
  cases changePlaces script with
  | nil => exact iff_of_true rfl rfl
  | cons place places =>
      rw [Span.group_cons]
      exact iff_of_false (Span.groupFrom_ne_nil _ _ _) (List.cons_ne_nil _ _)

/-! ### Tiling -/

/-- From `pos` on, the script consists of the windows and of unchanged edits outside them. -/
inductive Tiles (script : List (Edit Line)) : Nat → List Window → Prop where
  | rest {pos : Nat} (hrest : Unchanged script pos script.length) : Tiles script pos []
  | window {pos : Nat} {w : Window} {ws : List Window} (hstart : pos ≤ w.start)
      (hstop : w.start < w.stop) (hlength : w.stop ≤ script.length)
      (hgap : Unchanged script pos w.start) (htail : Tiles script w.stop ws) :
      Tiles script pos (w :: ws)

/-- A window has something in it and lies inside its script. -/
theorem Tiles.window_bounds {script : List (Edit Line)} {pos : Nat} {ws : List Window}
    (h : Tiles script pos ws) :
    ∀ w ∈ ws, w.start < w.stop ∧ w.stop ≤ script.length := by
  induction h with
  | rest => exact List.forall_mem_nil _
  | window _ hstop hlength _ _ ih =>
      exact List.forall_mem_cons.mpr ⟨⟨hstop, hlength⟩, ih⟩

/-- The windows of an open span and of the places behind it tile the script from any place on
from which nothing changes before the span. `hmem` says that no change behind the open span has
been left out. -/
theorem tiles_groupFrom {script : List (Edit Line)} {context pos : Nat} {current : Span}
    {places : List Nat} (hpos : pos ≤ current.first - context)
    (hspan : current.first ≤ current.last) (hlast : current.last < script.length)
    (hbefore : Unchanged script pos current.first)
    (hsorted : (current.last :: places).Pairwise (· < ·))
    (hmem : ∀ i, current.last < i → i ∈ changePlaces script → i ∈ places)
    (hchange : ∀ i ∈ places, i < script.length) :
    Tiles script pos
      ((Span.groupFrom context current places).map (Span.window context script.length)) := by
  -- The induction is on the places still to come. The invariant is that nothing changes from `pos`
  -- up to the open span, and that every change behind it is among these places.
  induction places generalizing current pos with
  | nil =>
      -- The last span is closed, and behind its window nothing changes any more.
      refine .window hpos ?_ (Nat.min_le_right _ _) ?_ (.rest ?_)
      · simp only [Span.window]
        omega
      · intro i hi hi'
        exact hbefore i hi (by simp only [Span.window] at hi'; omega)
      · refine unchanged_of_not_mem fun i hi hi' himem => ?_
        simp only [Span.window] at hi
        exact absurd (hmem i (by omega) himem) (by simp)
  | cons place places ih =>
      have hplace : current.last < place := List.rel_of_pairwise_cons hsorted List.mem_cons_self
      have hmem' : ∀ i, place < i → i ∈ changePlaces script → i ∈ places := by
        intro i hi himem
        rcases List.mem_cons.mp (hmem i (by omega) himem) with rfl | h
        · exact absurd hi (Nat.lt_irrefl _)
        · exact h
      have hlength : place < script.length := hchange place List.mem_cons_self
      have hchange' : ∀ i ∈ places, i < script.length := fun i hi =>
        hchange i (List.mem_cons_of_mem place hi)
      have hsorted' := hsorted.tail
      rw [Span.groupFrom]
      by_cases hreach : Span.reaches context current place = true
      · rw [if_pos hreach]
        exact ih hpos (Nat.le_trans hspan (Nat.le_of_lt hplace)) hlength hbefore hsorted' hmem'
          hchange'
      · rw [if_neg hreach]
        -- The place is too far away: the open span is closed, and the windows do not touch, as more
        -- than twice the context lies between them.
        have hfar : 2 * context < place - current.last - 1 := by
          simp only [Span.reaches, decide_eq_true_eq] at hreach
          omega
        -- From the closed window to the place nothing changes, since `place` is the next change.
        have hbetween : Unchanged script (current.last + context + 1) place := by
          refine unchanged_of_not_mem fun i hi hi' himem => ?_
          rcases List.mem_cons.mp (hmem i (by omega) himem) with rfl | h
          · exact absurd hi' (Nat.lt_irrefl _)
          · have := List.rel_of_pairwise_cons hsorted' h
            omega
        refine .window hpos ?_ (Nat.min_le_right _ _) ?_ ?_
        · simp only [Span.window]
          omega
        · intro i hi hi'
          exact hbefore i hi (by simp only [Span.window] at hi'; omega)
        · refine ih ?_ (Nat.le_refl place) hlength ?_ hsorted' hmem' hchange'
          · simp only [Span.window]
            omega
          · intro i hi hi'
            exact hbetween i (by simp only [Span.window] at hi; omega) hi'

/-- The windows of a script tile it. -/
theorem windows_tile (script : List (Edit Line)) (context : Nat) :
    Tiles script 0 (windows script context) := by
  have hlength : ∀ i ∈ changePlaces script, i < script.length := by
    intro i hi
    obtain ⟨e, he, -⟩ := mem_changePlaces.mp hi
    exact (List.getElem?_eq_some_iff.mp he).1
  have hsorted := changePlaces_pairwise script
  unfold windows
  cases hplaces : changePlaces script with
  | nil =>
      exact .rest (unchanged_of_not_mem fun i _ _ hi => by simp [hplaces] at hi)
  | cons place places =>
      rw [hplaces] at hlength hsorted
      rw [Span.group_cons]
      refine tiles_groupFrom (Nat.zero_le _) (Nat.le_refl _) (hlength place List.mem_cons_self)
        ?_ hsorted ?_ fun i hi => hlength i (List.mem_cons_of_mem place hi)
      · refine unchanged_of_not_mem fun i _ hi' himem => ?_
        rw [hplaces] at himem
        rcases List.mem_cons.mp himem with rfl | h
        · exact absurd hi' (Nat.lt_irrefl _)
        · have := List.rel_of_pairwise_cons hsorted h
          simp only at hi'
          omega
      · intro i hi himem
        rw [hplaces] at himem
        rcases List.mem_cons.mp himem with rfl | h
        · exact absurd hi (Nat.lt_irrefl _)
        · exact h

end TwinRun
