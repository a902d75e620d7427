import Mathlib
import TwinRun.Proofs.Diff.OneBlock
import TwinRun.Word

/-!
The diff with every step checked.

A diff counts in machine words of 64 bits and cuts lists at places that it has worked out before.
`diff?` takes each of its steps only where it is defined: a sum or a product only if it is a word, a
difference only if no more is taken away than there is, a place or a stretch only if it lies in its
list. What keeps them defined comes from an earlier step each time.

* `Script.trim?_eq`: the shared end is looked for behind the shared start, so they do not overlap.
* `Span.foldlM_step?`: the places of changes increase, so none lies before the open span.
* `NumberedScript.hunk?_eq`: counts are noted for every place and do not decrease.
* `Script.length_ofLines_lt`: a table that can be filled in bounds the script, too.
* `diff_defined`: no step of a diff is undefined.
-/

namespace TwinRun

/-! ### Checked steps -/

namespace Word

def add? (a b : Nat) : Option Nat := if a + b < bound then some (a + b) else none

def mul? (a b : Nat) : Option Nat := if a * b < bound then some (a * b) else none

def sub? (a b : Nat) : Option Nat := if b ≤ a then some (a - b) else none

variable {a b : Nat}

theorem add?_eq (h : a + b < bound) : add? a b = some (a + b) := if_pos h

theorem mul?_eq (h : a * b < bound) : mul? a b = some (a * b) := if_pos h

theorem sub?_eq (h : b ≤ a) : sub? a b = some (a - b) := if_pos h

end Word

/-- The stretch of a list from `start` up to but without `stop`. -/
def stretch? {α : Type} (l : List α) (start stop : Nat) : Option (List α) :=
  if start ≤ stop ∧ stop ≤ l.length then some ((l.take stop).drop start) else none

theorem stretch?_eq {α : Type} {l : List α} {start stop : Nat} (h : start ≤ stop)
    (hlength : stop ≤ l.length) : stretch? l start stop = some ((l.take stop).drop start) :=
  if_pos ⟨h, hlength⟩

theorem stretch?_to_end {α : Type} {l : List α} {start : Nat} (h : start ≤ l.length) :
    stretch? l start l.length = some (l.drop start) := by
  rw [stretch?_eq h (Nat.le_refl _), List.take_length]

/-! ### Trimming -/

namespace Script

def trim? (old new : List Line) : Option Trimmed := do
  let first := sharedStart old new
  let oldRest ← stretch? old first old.length
  let newRest ← stretch? new first new.length
  let shared := sharedEnd oldRest newRest
  let oldStop ← Word.sub? old.length shared
  let newStop ← Word.sub? new.length shared
  let start ← stretch? old 0 first
  let oldMiddle ← stretch? old first oldStop
  let newMiddle ← stretch? new first newStop
  let rest ← stretch? old oldStop old.length
  return { start, oldMiddle, newMiddle, rest }

/-- The edits of the middle. The table is measured only if neither side is empty. -/
def Trimmed.middle? (t : Trimmed) : Option (List (Edit Line)) := do
  if !t.oldMiddle.isEmpty && !t.newMiddle.isEmpty then
    let _cells ← Word.mul? t.oldMiddle.length t.newMiddle.length
  return t.middle

def ofLines? (old new : List Line) : Option (List (Edit Line)) := do
  let t ← trim? old new
  let middle ← t.middle?
  return t.start.map .equal ++ middle ++ t.rest.map .equal

/-- How many lines of the ends are shared: as far as both lists start alike, and then as far as what
remains of them ends alike. -/
def sharedEnds (old new : List Line) : Nat :=
  sharedStart old new + sharedEnd (old.drop (sharedStart old new)) (new.drop (sharedStart old new))

section Ends

variable {α : Type} [DecidableEq α]

theorem sharedStart_le_right (as bs : List α) : sharedStart as bs ≤ bs.length :=
  sharedStart_comm as bs ▸ sharedStart_le_left bs as

theorem sharedEnd_le_left (as bs : List α) : sharedEnd as bs ≤ as.length := by
  have hle := sharedStart_le_left as.reverse bs.reverse
  rwa [List.length_reverse] at hle

end Ends

/-- The two ends do not overlap on the old side, even where they compete for the same lines. -/
theorem sharedEnds_le_old (old new : List Line) : sharedEnds old new ≤ old.length := by
  have hstart := sharedStart_le_left old new
  have hend := sharedEnd_le_left (old.drop (sharedStart old new)) (new.drop (sharedStart old new))
  rw [List.length_drop] at hend
  unfold sharedEnds
  omega

theorem sharedEnds_comm (old new : List Line) : sharedEnds old new = sharedEnds new old := by
  unfold sharedEnds
  rw [sharedStart_comm old new, sharedEnd_comm]

theorem sharedEnds_le_new (old new : List Line) : sharedEnds old new ≤ new.length :=
  sharedEnds_comm old new ▸ sharedEnds_le_old new old

/-- Every cut of trimming lies inside its list. -/
theorem trim?_eq (old new : List Line) : trim? old new = some (trim old new) := by
  have hold := sharedEnds_le_old old new
  have hnew := sharedEnds_le_new old new
  unfold sharedEnds at hold hnew
  unfold trim? trim
  simp only [stretch?_to_end (sharedStart_le_left old new),
    stretch?_to_end (sharedStart_le_right old new), Option.bind_eq_bind, Option.bind_some]
  -- From here on only the two counts matter, and that together they fit on either side.
  generalize hshared : sharedEnd (old.drop (sharedStart old new))
    (new.drop (sharedStart old new)) = shared at hold hnew
  generalize sharedStart old new = first at hold hnew
  rw [Word.sub?_eq (by omega), Word.sub?_eq (by omega), Option.bind_some, Option.bind_some,
    stretch?_eq (Nat.zero_le _) (by omega), Option.bind_some,
    stretch?_eq (by omega) (by omega), Option.bind_some,
    stretch?_eq (by omega) (by omega), Option.bind_some,
    stretch?_to_end (by omega), Option.bind_some]
  simp only [List.length_drop, List.drop_drop, List.drop_take, List.drop_zero, Nat.sub_zero]
  -- The checked cuts count from the front, those of `trim` from the back.
  rw [show old.length - shared - first = old.length - first - shared by omega,
    show new.length - shared - first = new.length - first - shared by omega,
    show first + (old.length - first - shared) = old.length - shared by omega]
  rfl

/-- The script is worked out as long as the size of the table is a word. -/
theorem ofLines?_eq {old new : List Line}
    (hcells : (trim old new).oldMiddle.length * (trim old new).newMiddle.length < Word.bound) :
    ofLines? old new = some (ofLines old new) := by
  have hmiddle : (trim old new).middle? = some (trim old new).middle := by
    unfold Trimmed.middle?
    rw [Word.mul?_eq hcells]
    split <;> rfl
  unfold ofLines?
  rw [trim?_eq]
  simp only [Option.bind_eq_bind, Option.bind_some, hmiddle]
  rfl

end Script

/-! ### Grouping -/

namespace Span

variable {context : Nat} {places : List Nat}

/-- Whether a place is near enough to join the span before it, the distance checked. -/
def reaches? (context : Nat) (s : Span) (place : Nat) : Option Bool := do
  let distance ← Word.sub? place s.last
  let between ← Word.sub? distance 1
  let reach ← Word.mul? 2 context
  return between ≤ reach

def step? (context : Nat) (s : List Span × Span) (place : Nat) : Option (List Span × Span) := do
  if ← reaches? context s.2 place then return (s.1, { s.2 with last := place })
  else return (s.2 :: s.1, ⟨place, place⟩)

def group? (context : Nat) : (places : List Nat) → Option (List Span)
  | [] => some []
  | place :: places => do
      let (done, current) ← places.foldlM (step? context) ([], ⟨place, place⟩)
      return (current :: done).reverse

/-- A place behind the open span has a distance from it. -/
theorem step?_eq (hcontext : 2 * context < Word.bound) {s : List Span × Span} {place : Nat}
    (hplace : s.2.last < place) : step? context s place = some (step context s place) := by
  have hreaches : reaches? context s.2 place = some (reaches context s.2 place) := by
    unfold reaches?
    rw [Word.sub?_eq (by omega), Option.bind_eq_bind, Option.bind_some, Word.sub?_eq (by omega),
      Option.bind_some, Word.mul?_eq hcontext]
    rfl
  unfold step? step
  rw [hreaches]
  simp only [Option.bind_eq_bind, Option.bind_some]
  split <;> rfl

/-- Whether it joins the open span or opens the next one, a place is the last of its span. -/
theorem last_step (context : Nat) (s : List Span × Span) (place : Nat) :
    (step context s place).2.last = place := by
  unfold step
  split <;> rfl

/-- Over increasing places, no distance is taken backwards. -/
theorem foldlM_step? (hcontext : 2 * context < Word.bound) (s : List Span × Span)
    (hsorted : (s.2.last :: places).Pairwise (· < ·)) :
    places.foldlM (step? context) s = some (places.foldl (step context) s) := by
  induction places generalizing s with
  | nil => rfl
  | cons place places ih =>
      have hplace : s.2.last < place := List.rel_of_pairwise_cons hsorted List.mem_cons_self
      have hrest : ((step context s place).2.last :: places).Pairwise (· < ·) := by
        rw [last_step]
        exact hsorted.tail
      rw [List.foldlM_cons, step?_eq hcontext hplace, List.foldl_cons]
      exact ih (step context s place) hrest

theorem group?_eq (hcontext : 2 * context < Word.bound) (hsorted : places.Pairwise (· < ·)) :
    group? context places = some (group context places) := by
  cases places with
  | nil => rfl
  | cons place places =>
      rw [group?, foldlM_step? hcontext ([], ⟨place, place⟩) hsorted]
      rfl

/-- The window of a span, its end checked. At the start of the script it is cut off. -/
def window? (context length : Nat) (s : Span) : Option Window := do
  let behind ← Word.add? s.last context
  let stop ← Word.add? behind 1
  return ⟨s.first - context, min stop length⟩

theorem window?_eq {length : Nat} {s : Span} (h : s.last + context + 1 < Word.bound) :
    s.window? context length = some (s.window context length) := by
  unfold window?
  rw [Word.add?_eq (by omega), Option.bind_eq_bind, Option.bind_some, Word.add?_eq h]
  rfl

end Span

/-! ### Line numbers -/

section Counts

variable {counts : Edit Line → Bool} {script : List (Edit Line)} {i : Nat}

def countStep? (counts : Edit Line → Bool) (s : Array Nat × Nat) (e : Edit Line) :
    Option (Array Nat × Nat) := do
  let total ← if counts e then Word.add? s.2 1 else some s.2
  return (s.1.push s.2, total)

def countsBefore? (counts : Edit Line → Bool) (script : List (Edit Line)) :
    Option (Array Nat) := do
  let capacity ← Word.add? script.length 1
  let (before, total) ← script.foldlM (countStep? counts) (Array.emptyWithCapacity capacity, 0)
  return before.push total

theorem foldlM_countStep? {s : Array Nat × Nat} (h : s.2 + script.length < Word.bound) :
    script.foldlM (countStep? counts) s = some (script.foldl (countStep counts) s) := by
  induction script generalizing s with
  | nil => rfl
  | cons e script ih =>
      rw [List.length_cons] at h
      have hstep : countStep? counts s e = some (countStep counts s e) := by
        unfold countStep? countStep
        rw [Word.add?_eq (by omega)]
        split <;> rfl
      have hrest : (countStep counts s e).2 + script.length < Word.bound := by
        simp only [countStep]
        split <;> omega
      rw [List.foldlM_cons, hstep, List.foldl_cons]
      exact ih hrest

theorem countsBefore?_eq (h : script.length + 1 < Word.bound) :
    countsBefore? counts script = some (countsBefore counts script) := by
  unfold countsBefore?
  rw [Word.add?_eq h, Option.bind_eq_bind, Option.bind_some,
    foldlM_countStep? (by simp only; omega)]
  rfl

/-- There is one count more than there are edits. -/
theorem size_countsBefore (counts : Edit Line → Bool) (script : List (Edit Line)) :
    (countsBefore counts script).size = script.length + 1 := by
  obtain ⟨hsize, -, -⟩ := foldl_countStep counts script (script.length + 1)
  have hcounts : countsBefore counts script =
      (let r := script.foldl (countStep counts) (Array.emptyWithCapacity (script.length + 1), 0)
       r.1.push r.2) := rfl
  rw [hcounts, Array.size_push, hsize]

theorem countsBefore_getElem? (counts : Edit Line → Bool) (hi : i ≤ script.length) :
    (countsBefore counts script)[i]? = some ((script.take i).countP counts) := by
  have hlt : i < (countsBefore counts script).size := by
    rw [size_countsBefore]
    omega
  rw [← countsBefore_getD counts hi, Array.getElem?_eq_getElem hlt, Array.getD, dif_pos hlt]
  rfl

/-- The counts do not decrease. -/
theorem countP_take_mono (counts : Edit Line → Bool) (script : List (Edit Line)) {j : Nat}
    (hij : i ≤ j) : (script.take i).countP counts ≤ (script.take j).countP counts :=
  (List.take_sublist_take_left hij).countP_le

theorem countsBefore_sorted (counts : Edit Line → Bool) (script : List (Edit Line)) :
    (countsBefore counts script).toList.Pairwise (· ≤ ·) := by
  rw [List.pairwise_iff_getElem]
  intro i j hi hj hij
  rw [Array.length_toList, size_countsBefore] at hi hj
  have hat : ∀ {k : Nat} (hk : k < (countsBefore counts script).toList.length),
      (countsBefore counts script).toList[k] = (script.take k).countP counts := by
    intro k hk
    rw [Array.length_toList, size_countsBefore] at hk
    apply Option.some.inj
    rw [← countsBefore_getElem? counts (Nat.le_of_lt_succ hk), ← Array.getElem?_toList,
      List.getElem?_eq_getElem]
  rw [hat, hat]
  exact countP_take_mono counts script (Nat.le_of_lt hij)

end Counts

/-! ### Hunks -/

def rangeStart? (before length : Nat) : Option Nat :=
  if length = 0 then some before else Word.add? before 1

theorem rangeStart?_eq {before : Nat} (length : Nat) (h : before + 1 < Word.bound) :
    rangeStart? before length = some (rangeStart before length) := by
  unfold rangeStart? rangeStart
  rw [Word.add?_eq h]
  split <;> rfl

namespace NumberedScript

variable {script : List (Edit Line)}

def ofScript? (script : List (Edit Line)) : Option NumberedScript := do
  let oldBefore ← countsBefore? (fun edit => edit.old?.isSome) script
  let newBefore ← countsBefore? (fun edit => edit.new?.isSome) script
  return { edits := script.toArray, oldBefore, newBefore }

/-- The hunk that shows a window: its places, its lengths and its numbers checked. -/
def hunk? (s : NumberedScript) (w : Window) : Option Hunk := do
  let oldStop ← s.oldBefore[w.stop]?
  let oldBefore ← s.oldBefore[w.start]?
  let oldLength ← Word.sub? oldStop oldBefore
  let newStop ← s.newBefore[w.stop]?
  let newBefore ← s.newBefore[w.start]?
  let newLength ← Word.sub? newStop newBefore
  let edits ← stretch? s.edits.toList w.start w.stop
  let oldStart ← rangeStart? oldBefore oldLength
  let newStart ← rangeStart? newBefore newLength
  return { oldStart, oldLength, newStart, newLength, lines := edits.map DiffLine.ofEdit }

theorem ofScript?_eq (h : script.length + 1 < Word.bound) :
    ofScript? script = some (ofScript script) := by
  unfold ofScript?
  rw [countsBefore?_eq h, countsBefore?_eq h]
  rfl

/-- A window inside the script can be shown. -/
theorem hunk?_eq (h : script.length + 1 < Word.bound) {w : Window} (hstop : w.start ≤ w.stop)
    (hlength : w.stop ≤ script.length) :
    (ofScript script).hunk? w = some ((ofScript script).hunk w) := by
  have hstart : w.start ≤ script.length := Nat.le_trans hstop hlength
  have hcount : ∀ counts, (script.take w.start).countP counts + 1 < Word.bound := by
    intro counts
    have hle := List.countP_le_length (p := counts) (l := script.take w.start)
    rw [List.length_take] at hle
    omega
  have hedits : stretch? script.toArray.toList w.start w.stop
      = some (script.toArray.extract w.start w.stop).toList := by
    rw [stretch?_eq hstop hlength]
    simp [List.drop_take]
  unfold hunk? hunk
  simp only [ofScript, countsBefore_getElem? _ hstart, countsBefore_getElem? _ hlength,
    countsBefore_getD _ hstart, countsBefore_getD _ hlength, Option.bind_eq_bind, Option.bind_some,
    Word.sub?_eq (countP_take_mono _ script hstop), hedits, rangeStart?_eq _ (hcount _)]
  rfl

end NumberedScript

def Hunk.ofScript? (script : List (Edit Line)) (context : Nat) : Option (List Hunk) := do
  let numbered ← NumberedScript.ofScript? script
  let spans ← Span.group? context (changePlaces script)
  spans.mapM fun s => do numbered.hunk? (← s.window? context script.length)

/-- A change lies in the window of its span, and the window in the script. -/
theorem Span.window_bounds {script : List (Edit Line)} {context : Nat} {s : Span}
    (hs : s ∈ spans script context) :
    let w := s.window context script.length
    w.start ≤ s.first ∧ s.first ≤ s.last ∧ s.last < w.stop ∧ w.stop ≤ script.length := by
  have hsorted := changePlaces_pairwise script
  have hle := first_le_last hsorted hs
  have hlast := lt_length_of_mem_changePlaces (last_mem hsorted hs)
  simp only [window]
  omega

theorem mapM_eq_some_map {α β : Type} {f : α → Option β} {g : α → β} {l : List α}
    (h : ∀ a ∈ l, f a = some (g a)) : l.mapM f = some (l.map g) := by
  induction l with
  | nil => rfl
  | cons a l ih =>
      obtain ⟨ha, hl⟩ := List.forall_mem_cons.mp h
      rw [List.mapM_cons, ha, ih hl]
      rfl

/-- The hunks are worked out as long as the script is short enough for its numbers to be words. -/
theorem Hunk.ofScript?_eq {script : List (Edit Line)} {context : Nat}
    (h : script.length + 2 * context + 1 < Word.bound) :
    ofScript? script context = some (ofScript script context) := by
  unfold ofScript?
  rw [NumberedScript.ofScript?_eq (by omega),
    Span.group?_eq (by omega) (changePlaces_pairwise script), ofScript, windows, List.map_map]
  apply mapM_eq_some_map
  intro s hs
  obtain ⟨hfirst, hle, hlast, hstop⟩ := Span.window_bounds hs
  rw [Span.window?_eq (by omega)]
  exact NumberedScript.hunk?_eq (by omega) (by omega) hstop

/-! ### Sizes -/

namespace Script

variable {old new : List Line}

/-- The script has an edit for each shared line, and for the middles no more than their lines. -/
theorem length_ofLines_le (old new : List Line) :
    (ofLines old new).length ≤ (trim old new).start.length
      + ((trim old new).oldMiddle.length + (trim old new).newMiddle.length)
      + (trim old new).rest.length := by
  have hmiddle := Edit.length_le (trim old new).middle
  rw [Trimmed.olds_middle, Trimmed.news_middle] at hmiddle
  simp only [ofLines, List.length_append, List.length_map]
  omega

/-- Of two middles whose table can be measured in words, one has less than `2 ^ 32` lines. So the
script is hardly longer than one of the sides. -/
theorem length_ofLines_lt {size : Nat} (hold : old.length < size) (hnew : new.length < size)
    (hcells : (trim old new).oldMiddle.length * (trim old new).newMiddle.length < Word.bound) :
    (ofLines old new).length < size + 2 ^ 32 := by
  have hle := length_ofLines_le old new
  have holdLength := congrArg List.length (trim_old old new)
  have hnewLength := congrArg List.length (trim_new old new)
  simp only [List.length_append] at holdLength hnewLength
  rcases Nat.lt_or_ge (trim old new).oldMiddle.length (2 ^ 32) with hshort | hlong
  · omega
  · have hother : (trim old new).newMiddle.length < 2 ^ 32 := by
      by_contra hlong'
      have hproduct := Nat.mul_le_mul hlong (Nat.le_of_not_lt hlong')
      have hbound : 2 ^ 32 * 2 ^ 32 = Word.bound := by decide
      omega
    omega

end Script

/-! ### The whole diff -/

def diff? (old new : Bytes) (context : Nat) : Option (List Hunk) := do
  Hunk.ofScript? (← Script.ofLines? (Line.split old) (Line.split new)) context

/-- What keeps the steps of a diff inside the lists, and its differences exact. -/
structure InRange (old new : List Line) (script : List (Edit Line)) (context : Nat) : Prop where
  /-- The shared ends do not overlap on either side. -/
  ends_old : Script.sharedEnds old new ≤ old.length
  ends_new : Script.sharedEnds old new ≤ new.length
  /-- The places of the changes increase. -/
  places : (changePlaces script).Pairwise (· < ·)
  /-- A span has its first change before its last one, and both lie in its window. -/
  spans : ∀ s ∈ spans script context,
    let w := s.window context script.length
    w.start ≤ s.first ∧ s.first ≤ s.last ∧ s.last < w.stop ∧ w.stop ≤ script.length
  /-- A window ends before the next one starts. -/
  windows : (windows script context).IsChain fun v w => v.stop ≤ w.start
  /-- There is a count for each place, the end included, and the counts do not decrease. -/
  counts : ∀ counts : Edit Line → Bool,
    (countsBefore counts script).size = script.length + 1 ∧
      (countsBefore counts script).toList.Pairwise (· ≤ ·)

/-- **No step of a diff is undefined.** Its cuts, places and differences are in range for all byte
strings and every context. In a memory of words, where no byte string has `2 ^ 63` bytes, its sums
and products are words as well, if the number of cells of the table is one and the context is at
most `2 ^ 40`: the diff with every step checked is the diff. -/
theorem diff_defined (old new : Bytes) (context : Nat) :
    InRange (Line.split old) (Line.split new) (Script.ofLines (Line.split old) (Line.split new))
      context ∧
    (old.length < 2 ^ 63 → new.length < 2 ^ 63 → context ≤ 2 ^ 40 →
      (Script.trim (Line.split old) (Line.split new)).oldMiddle.length
        * (Script.trim (Line.split old) (Line.split new)).newMiddle.length < 2 ^ 64 →
      diff? old new context = some (diff old new context)) := by
  constructor
  · refine ⟨Script.sharedEnds_le_old _ _, Script.sharedEnds_le_new _ _, changePlaces_pairwise _,
      fun s hs => Span.window_bounds hs, ?_, fun counts => ?_⟩
    · exact ((windows_apart _ context).imp Nat.le_of_lt).isChain
    · exact ⟨size_countsBefore counts _, countsBefore_sorted counts _⟩
  · intro hold hnew hcontext hcells
    -- A script has no more edits than both sides have lines, and no more than that if the middles
    -- are replaced.
    have hlength : (Script.ofLines (Line.split old) (Line.split new)).length < 2 ^ 63 + 2 ^ 32 :=
      Script.length_ofLines_lt (Nat.lt_of_le_of_lt (Line.length_split_le old) hold)
        (Nat.lt_of_le_of_lt (Line.length_split_le new) hnew) hcells
    have hroom : (Script.ofLines (Line.split old) (Line.split new)).length + 2 * context + 1
        < Word.bound := by
      simp only [Word.bound]
      omega
    unfold diff? diff
    rw [Script.ofLines?_eq hcells, Option.bind_eq_bind, Option.bind_some]
    exact Hunk.ofScript?_eq hroom

/-- Both sides start and end with the same repeated line, of which the shorter one has too few for
both ends. -/
theorem diff_defined_repeated :
    let old : Bytes := [97, 10, 97, 10, 98, 10, 97, 10, 97]
    let new : Bytes := [97, 10, 97, 10, 97]
    let t := Script.trim (Line.split old) (Line.split new)
    old.length < 2 ^ 63 ∧ new.length < 2 ^ 63 ∧ 1 ≤ 2 ^ 40 ∧
      t.oldMiddle.length * t.newMiddle.length < 2 ^ 64 ∧
      diff? old new 1 = some (diff old new 1) := by
  intro old new t
  have hold : old.length < 2 ^ 63 := by decide
  have hnew : new.length < 2 ^ 63 := by decide
  have hcells : t.oldMiddle.length * t.newMiddle.length < 2 ^ 64 := by decide
  exact ⟨hold, hnew, by decide, hcells, (diff_defined old new 1).2 hold hnew (by decide) hcells⟩

end TwinRun
