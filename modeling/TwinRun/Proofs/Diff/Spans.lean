import Mathlib.Data.List.Pairwise
import Mathlib.Data.List.SplitBy
import TwinRun.Proofs.Diff.Windows

/-!
The spans into which places are grouped.

* `Span.group_eq_splitBy`: the spans are the longest runs of places of which each is near the one
  before it.
* `Span.exists_mem_group`: every place lies in a span.
* `Span.group_apart`: more than twice the context lies between two spans.
* `Span.near_of_mem_group`: no more than that lies between two neighbouring places of one span.
-/

namespace TwinRun

/-! ### Spans as runs of places -/

namespace Span

variable {context : Nat} {places g : List Nat} {s t : Span} {a b place : Nat}

/-- No more than twice the context lies between the places. -/
def near (context a b : Nat) : Bool := b - a - 1 ≤ 2 * context

def ofPlaces (g : List Nat) : Span := ⟨g.head?.getD 0, g.getLast?.getD 0⟩

theorem ofPlaces_concat (hne : g ≠ []) (place : Nat) :
    ofPlaces (g ++ [place]) = { ofPlaces g with last := place } := by
  simp only [ofPlaces, List.head?_append_of_ne_nil g hne, List.getLast?_concat, Option.getD_some]

/-- A run that is still open goes on as long as each place is near the one before it. -/
theorem groupFrom_eq_splitBy (hne : g ≠ []) (hchain : g.IsChain fun a b => near context a b)
    (places : List Nat) :
    groupFrom context (ofPlaces g) places
      = ((g ++ places).splitBy (near context)).map ofPlaces := by
  -- The open run is `g`; a place either joins it, or closes it and opens the next one.
  induction places generalizing g with
  | nil => rw [List.append_nil, List.splitBy_of_isChain hne hchain]; rfl
  | cons place places ih =>
      have hlast : ∀ a ∈ g.getLast?, (ofPlaces g).last = a := by
        intro a ha
        rw [ofPlaces, Option.mem_def.mp ha, Option.getD_some]
      rw [groupFrom]
      by_cases hreach : reaches context (ofPlaces g) place = true
      · have hchain' : (g ++ [place]).IsChain fun a b => near context a b := by
          refine hchain.append (List.isChain_singleton place) fun a ha b hb => ?_
          rw [Option.mem_def, List.head?_singleton, Option.some.injEq] at hb
          exact hb ▸ hlast a ha ▸ hreach
        rw [if_pos hreach, ← ofPlaces_concat hne, ih (by simp) hchain', List.append_assoc,
          List.singleton_append]
      · have hfar : ∀ a ∈ g.getLast?, near context a place = false := by
          intro a ha
          rw [← hlast a ha]
          exact Bool.eq_false_iff.mpr hreach
        have hrest : groupFrom context ⟨place, place⟩ places
            = ((place :: places).splitBy (near context)).map ofPlaces :=
          ih (List.cons_ne_nil place []) (List.isChain_singleton place)
        rw [if_neg hreach, hrest, List.splitBy_append_cons places hfar,
          List.splitBy_of_isChain hne hchain]
        rfl

/-- Grouping cuts the places wherever one is not near the one before it. -/
theorem group_eq_splitBy (context : Nat) (places : List Nat) :
    group context places = (places.splitBy (near context)).map ofPlaces := by
  cases places with
  | nil => rfl
  | cons place places =>
      rw [group_cons]
      exact groupFrom_eq_splitBy (List.cons_ne_nil place []) (List.isChain_singleton place) places

/-! ### Where the spans lie -/

/-- The span of a run covers it from end to end. -/
theorem ofPlaces_bounds (hne : g ≠ []) (hsorted : g.Pairwise (· < ·)) :
    (ofPlaces g).first ∈ g ∧ (ofPlaces g).last ∈ g ∧
      ∀ place ∈ g, (ofPlaces g).first ≤ place ∧ place ≤ (ofPlaces g).last := by
  have hfirst : (ofPlaces g).first = g.head hne := by
    rw [ofPlaces, List.head?_eq_some_head hne, Option.getD_some]
  have hlast : (ofPlaces g).last = g.getLast hne := by
    rw [ofPlaces, List.getLast?_eq_some_getLast hne, Option.getD_some]
  have hle : g.Pairwise (· ≤ ·) := hsorted.imp Nat.le_of_lt
  rw [hfirst, hlast]
  exact ⟨List.head_mem hne, List.getLast_mem hne, fun place hplace =>
    ⟨hle.rel_head hplace, hle.rel_getLast hplace⟩⟩

theorem infix_of_mem_splitBy {r : Nat → Nat → Bool} (h : g ∈ places.splitBy r) :
    g <:+: places := by
  have hstretch := List.infix_of_mem_flatten h
  rwa [List.flatten_splitBy] at hstretch

/-- The run of a span, and where it stands among the places. -/
theorem exists_run (hsorted : places.Pairwise (· < ·)) (h : s ∈ group context places) :
    ∃ g, g <:+: places ∧ g.IsChain (fun a b => near context a b) ∧ s.first ∈ g ∧ s.last ∈ g ∧
      ∀ place ∈ g, s.first ≤ place ∧ place ≤ s.last := by
  rw [group_eq_splitBy] at h
  obtain ⟨g, hg, rfl⟩ := List.mem_map.mp h
  have hstretch := infix_of_mem_splitBy hg
  exact ⟨g, hstretch, List.isChain_of_mem_splitBy hg,
    ofPlaces_bounds (List.ne_nil_of_mem_splitBy hg) (hsorted.sublist hstretch.sublist)⟩

theorem first_mem (hsorted : places.Pairwise (· < ·)) (h : s ∈ group context places) :
    s.first ∈ places := by
  obtain ⟨g, hstretch, -, hfirst, -, -⟩ := exists_run hsorted h
  exact hstretch.subset hfirst

theorem last_mem (hsorted : places.Pairwise (· < ·)) (h : s ∈ group context places) :
    s.last ∈ places := by
  obtain ⟨g, hstretch, -, -, hlast, -⟩ := exists_run hsorted h
  exact hstretch.subset hlast

theorem first_le_last (hsorted : places.Pairwise (· < ·)) (h : s ∈ group context places) :
    s.first ≤ s.last := by
  obtain ⟨g, -, -, hfirst, -, hbounds⟩ := exists_run hsorted h
  exact (hbounds s.first hfirst).2

/-- Every place lies in a span. -/
theorem exists_mem_group (context : Nat) (hsorted : places.Pairwise (· < ·))
    (h : place ∈ places) : ∃ s ∈ group context places, s.first ≤ place ∧ place ≤ s.last := by
  rw [← List.flatten_splitBy (near context) places] at h
  obtain ⟨g, hg, hplace⟩ := List.mem_flatten.mp h
  obtain ⟨-, -, hbounds⟩ := ofPlaces_bounds (List.ne_nil_of_mem_splitBy hg)
    (hsorted.sublist (infix_of_mem_splitBy hg).sublist)
  refine ⟨ofPlaces g, ?_, hbounds place hplace⟩
  rw [group_eq_splitBy]
  exact List.mem_map_of_mem hg

/-- The second span starts too far behind the first one to join it. -/
def Apart (context : Nat) (s t : Span) : Prop :=
  s.last + 2 * context + 1 < t.first ∧ t.first ≤ t.last

instance : Trans (Apart context) (Apart context) (Apart context) :=
  ⟨fun h h' => ⟨by have := h.1; have := h.2; have := h'.1; omega, h'.2⟩⟩

/-- Between two spans lies more than twice the context. -/
theorem group_apart (context : Nat) (hsorted : places.Pairwise (· < ·)) :
    (group context places).Pairwise (Apart context) := by
  rw [← List.isChain_iff_pairwise, group_eq_splitBy, List.isChain_map]
  refine (List.isChain_getLast_head_splitBy (near context) places).imp_of_mem_imp ?_
  rintro g g' - hg' ⟨hne, hne', hfar⟩
  have hlast : (ofPlaces g).last = g.getLast hne := by
    rw [ofPlaces, List.getLast?_eq_some_getLast hne, Option.getD_some]
  have hfirst : (ofPlaces g').first = g'.head hne' := by
    rw [ofPlaces, List.head?_eq_some_head hne', Option.getD_some]
  obtain ⟨-, hmem, hbounds⟩ := ofPlaces_bounds hne'
    (hsorted.sublist (infix_of_mem_splitBy hg').sublist)
  refine ⟨?_, (hbounds _ hmem).1⟩
  rw [← hlast, ← hfirst, near, decide_eq_false_iff_not] at hfar
  omega

/-- Two spans that are not the same are apart, one way round or the other. -/
theorem eq_or_apart (hsorted : places.Pairwise (· < ·)) (hs : s ∈ group context places)
    (ht : t ∈ group context places) : s = t ∨ Apart context s t ∨ Apart context t s := by
  obtain ⟨i, hi, rfl⟩ := List.getElem_of_mem hs
  obtain ⟨j, hj, rfl⟩ := List.getElem_of_mem ht
  have hapart := List.pairwise_iff_getElem.mp (group_apart context hsorted)
  rcases Nat.lt_trichotomy i j with hij | rfl | hij
  · exact .inr (.inl (hapart i j hi hj hij))
  · exact .inl rfl
  · exact .inr (.inr (hapart j i hj hi hij))

/-- In a sorted list, two items between which none stands follow each other. -/
theorem exists_append_of_between (hsorted : g.Pairwise (· < ·)) (ha : a ∈ g) (hb : b ∈ g)
    (hab : a < b) (hbetween : ∀ i ∈ g, a < i → b ≤ i) : ∃ l l', g = l ++ a :: b :: l' := by
  obtain ⟨l, l', rfl⟩ := List.append_of_mem ha
  rw [List.pairwise_append] at hsorted
  obtain ⟨-, hbehind, hcross⟩ := hsorted
  have hb' : b ∈ l' := by
    rcases List.mem_append.mp hb with hb | hb
    · exact absurd (hcross b hb a List.mem_cons_self) (Nat.lt_asymm hab)
    · exact (List.mem_cons.mp hb).resolve_left (Nat.ne_of_gt hab)
  obtain ⟨k, l', rfl⟩ := List.exists_cons_of_ne_nil (List.ne_nil_of_mem hb')
  have hak : a < k := List.rel_of_pairwise_cons hbehind List.mem_cons_self
  have hbk : b ≤ k := hbetween k (by simp) hak
  rcases List.mem_cons.mp hb' with rfl | hb'
  · exact ⟨l, l', rfl⟩
  · exact absurd (List.rel_of_pairwise_cons hbehind.tail hb') (Nat.not_lt.mpr hbk)

/-- Inside a span, each place is near the next one. -/
theorem near_of_mem_group (hsorted : places.Pairwise (· < ·)) (hs : s ∈ group context places)
    (ha : a ∈ places) (hb : b ∈ places) (hab : a < b) (hbetween : ∀ i ∈ places, a < i → b ≤ i)
    (hfirst : s.first ≤ a) (hlast : b ≤ s.last) : b - a - 1 ≤ 2 * context := by
  obtain ⟨g, ⟨l, l', rfl⟩, hchain, hfirstMem, hlastMem, -⟩ := exists_run hsorted hs
  -- The places are sorted, so those from the first to the last one of a run are the run.
  have hinside : ∀ i ∈ l ++ g ++ l', s.first ≤ i → i ≤ s.last → i ∈ g := by
    intro i hi hfirst hlast
    rw [List.append_assoc, List.pairwise_append, List.pairwise_append] at hsorted
    obtain ⟨-, ⟨-, -, hright⟩, hleft⟩ := hsorted
    rcases List.mem_append.mp hi with hi | hi
    · rcases List.mem_append.mp hi with hi | hi
      · exact absurd (hleft i hi _ (List.mem_append_left l' hfirstMem)) (Nat.not_lt.mpr hfirst)
      · exact hi
    · exact absurd (hright _ hlastMem i hi) (Nat.not_lt.mpr hlast)
  have hgroup : g.Pairwise (· < ·) := hsorted.sublist (List.infix_append l g l').sublist
  obtain ⟨m, m', rfl⟩ := exists_append_of_between hgroup (hinside a ha hfirst (by omega))
    (hinside b hb (by omega) hlast) hab fun i hi => hbetween i (by simp [hi])
  have hnear := List.isChain_iff_forall_rel_of_append_cons_cons.mp hchain rfl
  exact of_decide_eq_true hnear

end Span

end TwinRun
