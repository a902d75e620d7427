import TwinRun.Proofs.Comparison
import TwinRun.Proofs.Diff.Context

/-!
Counting in words.

The context is not bounded, and so neither is what is counted with it.

* `diffIn_eq`: as long as the context leaves room for the lines of both sides, a diff in words is
  the diff.
* `diffIn_wraps`: where numbers are cut to words, there is a diff for every context.
* `Comparison.isMatch_ofBytesIn`: whatever becomes of the numbers, a comparison is a match exactly
  if the two outputs are equal byte for byte.
* `Comparison.ofBytesIn_eq_error`: a comparison panics only in a program that was built to, over
  outputs that differ, and if the context leaves no room for them.
-/

namespace TwinRun

variable {overflow : Overflow} {context : Nat}

/-! ### Steps that may panic -/

namespace Except

variable {ε α β : Type}

theorem bind_eq_ok {x : Except ε α} {f : α → Except ε β} {b : β} :
    (x >>= f) = .ok b ↔ ∃ a, x = .ok a ∧ f a = .ok b := by
  cases x with
  | ok a =>
      constructor
      · exact fun h => ⟨a, rfl, h⟩
      · rintro ⟨_, ⟨⟩, h⟩
        exact h
  | error e => exact iff_of_false (fun h => by cases h) (fun ⟨_, h, _⟩ => by cases h)

theorem bind_ok {x : Except ε α} {f : α → Except ε β} (hx : ∃ a, x = .ok a)
    (hf : ∀ a, ∃ b, f a = .ok b) : ∃ b, (x >>= f) = .ok b := by
  obtain ⟨a, hx⟩ := hx
  obtain ⟨b, hf⟩ := hf a
  exact ⟨b, bind_eq_ok.mpr ⟨a, hx, hf⟩⟩

/-- If every step gives something, all of them do. -/
theorem foldlM_ok {f : β → α → Except ε β} (h : ∀ b a, ∃ b', f b a = .ok b') (l : List α)
    (b : β) : ∃ b', l.foldlM f b = .ok b' := by
  induction l generalizing b with
  | nil => exact ⟨b, rfl⟩
  | cons a l ih =>
      rw [List.foldlM_cons]
      exact bind_ok (h b a) ih

theorem mapM_ok {f : α → Except ε β} (h : ∀ a, ∃ b, f a = .ok b) (l : List α) :
    ∃ bs, l.mapM f = .ok bs := by
  induction l with
  | nil => exact ⟨[], rfl⟩
  | cons a l ih =>
      rw [List.mapM_cons]
      exact bind_ok (h a) fun b => bind_ok ih fun bs => ⟨b :: bs, rfl⟩

theorem mapM_eq_map {f : α → Except ε β} {g : α → β} {l : List α}
    (h : ∀ a ∈ l, f a = .ok (g a)) : l.mapM f = .ok (l.map g) := by
  induction l with
  | nil => rfl
  | cons a l ih =>
      obtain ⟨ha, hl⟩ := List.forall_mem_cons.mp h
      rw [List.mapM_cons, ha, ih hl]
      rfl

/-- Nothing is given only for nothing. -/
theorem mapM_eq_nil {f : α → Except ε β} {l : List α} {bs : List β} (h : l.mapM f = .ok bs) :
    bs = [] ↔ l = [] := by
  cases l with
  | nil =>
      cases h
      exact iff_of_true rfl rfl
  | cons a l =>
      rw [List.mapM_cons] at h
      obtain ⟨b, -, h⟩ := bind_eq_ok.mp h
      obtain ⟨rest, -, h⟩ := bind_eq_ok.mp h
      cases h
      exact iff_of_false (List.cons_ne_nil b rest) (List.cons_ne_nil a l)

end Except

namespace Word

theorem settle_eq {n : Nat} (h : n < bound) (overflow : Overflow) (panic : Panic) :
    settle overflow panic n = .ok n := if_pos h

/-- Cut to a word, every number is one. -/
theorem settle_wraps (panic : Panic) (n : Nat) : ∃ m, settle .wraps panic n = .ok m := by
  unfold settle
  split
  · exact ⟨n, rfl⟩
  · exact ⟨n % bound, rfl⟩

end Word

/-! ### Spans and their windows -/

namespace Span

variable {places : List Nat}

def stepIn (overflow : Overflow) (context : Nat) (s : List Span × Span) (place : Nat) :
    Except Panic (List Span × Span) := do
  if ← reachesIn overflow context s.2 place then return (s.1, { s.2 with last := place })
  else return (s.2 :: s.1, ⟨place, place⟩)

theorem groupIn_cons (overflow : Overflow) (context place : Nat) (places : List Nat) :
    groupIn overflow context (place :: places)
      = (do
        let s ← places.foldlM (stepIn overflow context) ([], ⟨place, place⟩)
        return (s.2 :: s.1).reverse) :=
  rfl

theorem stepIn_eq (h : 2 * context < Word.bound) (overflow : Overflow) (s : List Span × Span)
    (place : Nat) : stepIn overflow context s place = .ok (step context s place) := by
  have hreaches : reachesIn overflow context s.2 place = .ok (reaches context s.2 place) := by
    rw [reachesIn, Word.mul, Word.settle_eq h]
    rfl
  unfold stepIn step
  rw [hreaches]
  cases reaches context s.2 place <;> rfl

theorem foldlM_stepIn (h : 2 * context < Word.bound) (overflow : Overflow) (places : List Nat)
    (s : List Span × Span) :
    places.foldlM (stepIn overflow context) s = .ok (places.foldl (step context) s) := by
  induction places generalizing s with
  | nil => rfl
  | cons place places ih =>
      rw [List.foldlM_cons, stepIn_eq h]
      exact ih _

theorem groupIn_eq (h : 2 * context < Word.bound) (overflow : Overflow) (places : List Nat) :
    groupIn overflow context places = .ok (group context places) := by
  cases places with
  | nil => rfl
  | cons place places =>
      rw [groupIn_cons, foldlM_stepIn h]
      rfl

theorem groupIn_wraps (context : Nat) (places : List Nat) :
    ∃ spans, groupIn .wraps context places = .ok spans := by
  have hstep : ∀ s place, ∃ s', stepIn .wraps context s place = .ok s' := by
    intro s place
    refine Except.bind_ok (Except.bind_ok (Word.settle_wraps _ _) fun reach => ⟨_, rfl⟩) ?_
    intro reached
    cases reached <;> exact ⟨_, rfl⟩
  cases places with
  | nil => exact ⟨[], rfl⟩
  | cons place places =>
      exact Except.bind_ok (Except.foldlM_ok hstep places _) fun s => ⟨_, rfl⟩

/-- As soon as there is a place, there is a span. -/
theorem groupIn_eq_nil {spans : List Span} (h : groupIn overflow context places = .ok spans) :
    spans = [] ↔ places = [] := by
  cases places with
  | nil =>
      cases h
      exact iff_of_true rfl rfl
  | cons place places =>
      rw [groupIn_cons] at h
      obtain ⟨s, -, h⟩ := Except.bind_eq_ok.mp h
      cases h
      exact iff_of_false (by simp) (by simp)

theorem windowIn_eq {s : Span} (h : s.last + context + 1 < Word.bound) (overflow : Overflow)
    (length : Nat) : s.windowIn overflow context length = .ok (s.window context length) := by
  have hbehind : s.last + context < Word.bound := Nat.lt_of_succ_lt h
  exact Except.bind_eq_ok.mpr ⟨_, Word.settle_eq hbehind overflow .sum,
    Except.bind_eq_ok.mpr ⟨_, Word.settle_eq h overflow .sum, rfl⟩⟩

theorem windowIn_wraps (context length : Nat) (s : Span) :
    ∃ w, s.windowIn .wraps context length = .ok w :=
  Except.bind_ok (Word.settle_wraps _ _) fun _ =>
    Except.bind_ok (Word.settle_wraps _ _) fun _ => ⟨_, rfl⟩

/-- A window lies in its script and does not end before it starts, whatever becomes of its end:
where that is cut to a word, the context reaches over the start of the script. -/
theorem windowIn_bounds {length : Nat} {s : Span} {w : Window} (hle : s.first ≤ s.last)
    (hlast : s.last < length) (hlength : 2 * length ≤ Word.bound)
    (h : s.windowIn overflow context length = .ok w) : w.start ≤ w.stop ∧ w.stop ≤ length := by
  obtain ⟨behind, hbehind, h⟩ := Except.bind_eq_ok.mp h
  obtain ⟨stop, hstop, h⟩ := Except.bind_eq_ok.mp h
  cases h
  refine ⟨?_, Nat.min_le_right stop length⟩
  rcases Nat.lt_or_ge context s.first with hshort | hlong
  · -- So short a context leaves the end a word.
    have hroom : s.last + context + 1 < Word.bound := by omega
    rw [Word.add, Word.settle_eq (Nat.lt_of_succ_lt hroom)] at hbehind
    cases hbehind
    rw [Word.add, Word.settle_eq hroom] at hstop
    cases hstop
    simp only
    omega
  · -- The window starts with the script.
    simp only
    omega

end Span

/-! ### The diff -/

namespace Hunk

variable {script : List (Edit Line)}

theorem ofScriptIn_eq (h : script.length + 2 * context < Word.bound) (overflow : Overflow) :
    ofScriptIn overflow script context = .ok (ofScript script context) := by
  rw [ofScriptIn, Span.groupIn_eq (by omega), ofScript, windows, List.map_map]
  refine Except.mapM_eq_map fun s hs => ?_
  have hlast := lt_length_of_mem_changePlaces (Span.last_mem (changePlaces_pairwise script) hs)
  exact Except.bind_eq_ok.mpr ⟨_, Span.windowIn_eq (by omega) overflow script.length, rfl⟩

theorem ofScriptIn_wraps (script : List (Edit Line)) (context : Nat) :
    ∃ hunks, ofScriptIn .wraps script context = .ok hunks := by
  refine Except.bind_ok (Span.groupIn_wraps context _) fun spans => ?_
  refine Except.mapM_ok (fun s => ?_) spans
  exact Except.bind_ok (Span.windowIn_wraps context _ s) fun w => ⟨_, rfl⟩

/-- Whatever becomes of the numbers, a script shows no hunk exactly if it changes nothing. -/
theorem ofScriptIn_eq_nil {hunks : List Hunk}
    (h : ofScriptIn overflow script context = .ok hunks) :
    hunks = [] ↔ ∀ e ∈ script, e.isChange = false := by
  obtain ⟨spans, hspans, h⟩ := Except.bind_eq_ok.mp h
  rw [Except.mapM_eq_nil h, Span.groupIn_eq_nil hspans, changePlaces_eq_nil]

end Hunk

/-- The script of two byte strings has an edit for each of their lines at most. -/
theorem length_ofLines_split_le (old new : Bytes) :
    (Script.ofLines (Line.split old) (Line.split new)).length ≤ old.length + new.length := by
  have hlength := Edit.length_le (Script.ofLines (Line.split old) (Line.split new))
  rw [Script.olds_ofLines, Script.news_ofLines] at hlength
  have hold := Line.length_split_le old
  have hnew := Line.length_split_le new
  omega

/-- As long as the context leaves room for all lines, a diff in words is the diff. -/
theorem diffIn_eq {old new : Bytes} (h : old.length + new.length + 2 * context < Word.bound)
    (overflow : Overflow) : diffIn overflow old new context = .ok (diff old new context) := by
  have hlength := length_ofLines_split_le old new
  exact Hunk.ofScriptIn_eq (by omega) overflow

theorem diffIn_wraps (old new : Bytes) (context : Nat) :
    ∃ hunks, diffIn .wraps old new context = .ok hunks :=
  Hunk.ofScriptIn_wraps _ context

theorem diffIn_eq_nil {old new : Bytes} {hunks : List Hunk}
    (h : diffIn overflow old new context = .ok hunks) : hunks = [] ↔ old = new := by
  rw [Hunk.ofScriptIn_eq_nil h, ← Hunk.ofScript_eq_nil, ← diff, diff_eq_nil]
  exact context

namespace Comparison

variable {name : String} {referencePath candidatePath : Path} {reference candidate : Bytes}
  {c : Comparison}

theorem hunksIn_wraps (reference candidate : Bytes) (context : Nat) :
    ∃ hunks, hunksIn .wraps reference candidate context = .ok hunks := by
  unfold hunksIn
  split
  · exact ⟨[], rfl⟩
  · exact diffIn_wraps reference candidate context

theorem hunksIn_eq_nil {hunks : List Hunk}
    (h : hunksIn overflow reference candidate context = .ok hunks) :
    hunks = [] ↔ reference = candidate := by
  unfold hunksIn at h
  split at h
  · next heq =>
      cases h
      exact iff_of_true rfl heq
  · exact diffIn_eq_nil h

/-- What is known of a comparison in words: its hunks, and what it says of the case. -/
theorem ofBytesIn_eq_ok :
    ofBytesIn overflow name referencePath reference candidatePath candidate context = .ok c ↔
      hunksIn overflow reference candidate context = .ok c.hunks ∧ c.caseName = name ∧
        c.referenceLabel = referencePath.display ∧ c.candidateLabel = candidatePath.display := by
  constructor
  · intro h
    obtain ⟨hunks, hhunks, h⟩ := Except.bind_eq_ok.mp h
    cases h
    exact ⟨hhunks, rfl, rfl, rfl⟩
  · obtain ⟨caseName, referenceLabel, candidateLabel, hunks⟩ := c
    rintro ⟨hhunks, rfl, rfl, rfl⟩
    exact Except.bind_eq_ok.mpr ⟨hunks, hhunks, rfl⟩

theorem ofBytesIn_eq (h : reference.length + candidate.length + 2 * context < Word.bound)
    (overflow : Overflow) :
    ofBytesIn overflow name referencePath reference candidatePath candidate context
      = .ok (ofBytes name referencePath reference candidatePath candidate context) := by
  refine ofBytesIn_eq_ok.mpr ⟨?_, rfl, rfl, rfl⟩
  unfold hunksIn ofBytes
  rw [diffIn_eq h]
  split <;> rfl

theorem ofBytesIn_wraps (name : String) (referencePath : Path) (reference : Bytes)
    (candidatePath : Path) (candidate : Bytes) (context : Nat) :
    ∃ c, ofBytesIn .wraps name referencePath reference candidatePath candidate context
      = .ok c :=
  Except.bind_ok (hunksIn_wraps reference candidate context) fun _ => ⟨_, rfl⟩

theorem isMatch_ofBytesIn
    (h : ofBytesIn overflow name referencePath reference candidatePath candidate context
      = .ok c) : c.isMatch = true ↔ reference = candidate := by
  rw [isMatch, List.isEmpty_iff, hunksIn_eq_nil (ofBytesIn_eq_ok.mp h).1]

/-- A panic is over outputs that differ, and over a context that leaves no room for them. -/
theorem ofBytesIn_eq_error {p : Panic}
    (h : ofBytesIn overflow name referencePath reference candidatePath candidate context
      = .error p) :
    overflow = .panics ∧ reference ≠ candidate ∧
      Word.bound ≤ reference.length + candidate.length + 2 * context := by
  refine ⟨?_, fun heq => ?_, Nat.le_of_not_lt fun hroom => ?_⟩
  · cases overflow with
    | panics => rfl
    | wraps =>
        obtain ⟨c, hc⟩ :=
          ofBytesIn_wraps name referencePath reference candidatePath candidate context
        rw [hc] at h
        cases h
  · unfold ofBytesIn hunksIn at h
    rw [if_pos heq] at h
    cases h
  · rw [ofBytesIn_eq hroom] at h
    cases h

end Comparison

end TwinRun
