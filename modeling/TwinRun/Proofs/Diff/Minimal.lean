import TwinRun.Proofs.Diff.Script
import TwinRun.Proofs.Diff.Table

/-!
When an edit script is minimal.

A script is minimal (`Edit.Minimal`) if it keeps a longest common subsequence of its two sides.
Then it has as few changes as any, no block of changes deletes and inserts one item
(`Edit.minimal_of_length_kept`), and nothing is inserted where the new side only leaves items out.

A script for lines keeps what the walk through the table collects (`Script.length_kept_ofLines`),
so with an aligned middle it is minimal exactly where the walk is not cut short
(`Script.minimal_ofLines_iff`). A walk that is cut short costs one line.
-/

namespace TwinRun

namespace Edit

variable {α : Type}

/-! ### What a script keeps -/

def kept? : Edit α → Option α
  | equal a => some a
  | delete _ | insert _ => none

def kept (script : List (Edit α)) : List α := script.filterMap kept?

@[simp] theorem kept_append (s t : List (Edit α)) : kept (s ++ t) = kept s ++ kept t := by
  simp [kept]

@[simp] theorem kept_map_equal (l : List α) : kept (l.map equal) = l := by
  induction l <;> simp_all [kept, kept?]

@[simp] theorem kept_map_delete (l : List α) : kept (l.map delete) = [] := by
  induction l <;> simp_all [kept, kept?]

@[simp] theorem kept_map_insert (l : List α) : kept (l.map insert) = [] := by
  induction l <;> simp_all [kept, kept?]

/-- A script keeps items of the old side. -/
theorem kept_sublist_olds (script : List (Edit α)) : (kept script).Sublist (olds script) := by
  induction script with
  | nil => exact List.Sublist.refl _
  | cons e script ih =>
      cases e with
      | equal a => exact ih.cons_cons a
      | delete a => exact ih.cons a
      | insert a => exact ih

/-- A script keeps items of the new side. -/
theorem kept_sublist_news (script : List (Edit α)) : (kept script).Sublist (news script) := by
  induction script with
  | nil => exact List.Sublist.refl _
  | cons e script ih =>
      cases e with
      | equal a => exact ih.cons_cons a
      | delete a => exact ih
      | insert a => exact ih.cons a

/-- A kept item is one of both sides, a changed one is one of one side. -/
theorem countP_isChange_add (script : List (Edit α)) :
    script.countP isChange + 2 * (kept script).length
      = (olds script).length + (news script).length := by
  induction script with
  | nil => rfl
  | cons e script ih =>
      simp only [kept, olds, news, List.filterMap_cons, List.countP_cons] at ih ⊢
      cases e <;> simp [kept?, old?, new?, isChange] <;> omega

/-- A deleted item stands in the old side. -/
theorem mem_olds_of_delete {script : List (Edit α)} {x : α} (h : delete x ∈ script) :
    x ∈ olds script := List.mem_filterMap.mpr ⟨delete x, h, rfl⟩

/-- An inserted item stands in the new side. -/
theorem mem_news_of_insert {script : List (Edit α)} {x : α} (h : insert x ∈ script) :
    x ∈ news script := List.mem_filterMap.mpr ⟨insert x, h, rfl⟩

/-- A block of changes keeps nothing. -/
theorem kept_eq_nil {block : List (Edit α)} (h : ∀ e ∈ block, e.isChange) : kept block = [] := by
  refine List.filterMap_eq_nil_iff.mpr fun e he => ?_
  have hchange := h e he
  cases e with
  | equal a => cases hchange
  | delete a => rfl
  | insert a => rfl

/-- A script that inserts an item does not keep all of the new side. -/
theorem length_kept_lt_news {script : List (Edit α)} {x : α} (h : insert x ∈ script) :
    (kept script).length < (news script).length := by
  obtain ⟨before, after, rfl⟩ := List.mem_iff_append.mp h
  have hbefore := (kept_sublist_news before).length_le
  have hafter := (kept_sublist_news after).length_le
  have hkept : kept (insert x :: after) = kept after := rfl
  have hnews : news (insert x :: after) = x :: news after := rfl
  rw [kept_append, news_append, hkept, hnews, List.length_append, List.length_append,
    List.length_cons]
  omega

/-! ### Minimal scripts -/

variable [DecidableEq α]

/-- A script from `old` to `new` that changes no more than it has to. -/
structure Minimal (script : List (Edit α)) (old new : List α) : Prop where
  olds : olds script = old
  news : news script = new
  /-- It keeps as many items as the two sides have in common. -/
  kept : (kept script).length = Common.longest old new
  /-- All other items are changed. -/
  changes : script.countP isChange = old.length + new.length - 2 * Common.longest old new
  /-- No block of changes deletes an item and inserts it again. -/
  block : ∀ before block after : List (Edit α), script = before ++ block ++ after →
    (∀ e ∈ block, e.isChange) → ∀ x, delete x ∈ block → insert x ∉ block
  /-- If the new side only leaves items out, none is inserted. -/
  leaving : new.Sublist old → ∀ x, insert x ∉ script

/-- An item of both sides of a part of a script could be kept between what is kept before and
after that part. -/
theorem length_kept_lt (before after : List (Edit α)) {block : List (Edit α)} {x : α}
    (hold : x ∈ Edit.olds block) (hnew : x ∈ Edit.news block) :
    (Edit.kept before).length + (Edit.kept after).length
      < Common.longest (Edit.olds (before ++ block ++ after))
          (Edit.news (before ++ block ++ after)) := by
  have hcommon : ∀ side : List (Edit α) → List α,
      (∀ s t, side (s ++ t) = side s ++ side t) → (∀ s, (Edit.kept s).Sublist (side s)) →
      x ∈ side block →
      (Edit.kept before ++ [x] ++ Edit.kept after).Sublist (side (before ++ block ++ after)) := by
    intro side happend hkept hmem
    rw [happend, happend]
    exact ((hkept before).append (List.singleton_sublist.mpr hmem)).append (hkept after)
  have hlength := Common.length_le_longest
    (hcommon Edit.olds olds_append kept_sublist_olds hold)
    (hcommon Edit.news news_append kept_sublist_news hnew)
  rw [List.length_append, List.length_append, List.length_singleton] at hlength
  omega

/-- A script is minimal if it keeps a longest common subsequence. -/
theorem minimal_of_length_kept {script : List (Edit α)}
    (h : (Edit.kept script).length = Common.longest (Edit.olds script) (Edit.news script)) :
    Minimal script (Edit.olds script) (Edit.news script) where
  olds := rfl
  news := rfl
  kept := h
  changes := by
    have hcount := countP_isChange_add script
    omega
  block := by
    intro before block after hscript hblock x hdelete hinsert
    -- A line that is both deleted and inserted in one block could be kept, and more is kept than
    -- can be.
    have hlt := length_kept_lt before after (mem_olds_of_delete hdelete)
      (mem_news_of_insert hinsert)
    rw [← hscript, ← h, hscript, kept_append, kept_append, kept_eq_nil hblock, List.append_nil,
      List.length_append] at hlt
    exact absurd hlt (Nat.lt_irrefl _)
  leaving := by
    intro hsub x hinsert
    have hlt := length_kept_lt_news hinsert
    rw [h, Common.longest_eq_length_right hsub] at hlt
    exact absurd hlt (Nat.lt_irrefl _)

/-- Of a script, only the number of kept items decides whether it is minimal. -/
theorem minimal_iff_length_kept {script : List (Edit α)} {old new : List α}
    (hold : Edit.olds script = old) (hnew : Edit.news script = new) :
    Minimal script old new ↔ (Edit.kept script).length = Common.longest old new := by
  subst hold hnew
  exact ⟨Minimal.kept, minimal_of_length_kept⟩

end Edit

/-! ### Scripts of merges and alignments -/

namespace Merge

variable {α : Type} [DecidableEq α]

/-- A pass keeps the front of the common subsequence. -/
theorem kept_pass (s : State α) :
    Edit.kept (edits (pass s).1) ++ (pass s).2.common = s.common := by
  obtain ⟨same, htaken, -, -, hcommon, -⟩ := takeSame_spec [] s
  rw [edits_pass, pass_eq, htaken]
  simp [← hcommon]

/-- A merge keeps the common subsequence. -/
theorem kept_blocks {s : State α} (h : s.Embedded) : Edit.kept (edits (blocks s)) = s.common := by
  fun_induction blocks s with
  | case1 s hzero =>
      have hsub := h.old
      rw [(State.eq_nil_of_remaining_eq_zero hzero).1] at hsub
      exact (List.sublist_nil.mp hsub).symm
  | case2 s hremaining hprogress ih =>
      rw [edits_append, Edit.kept_append, ih h.pass, kept_pass]
  | case3 s hremaining hstuck => exact absurd (h.progresses hremaining) hstuck

end Merge

/-- The edit script of two lists keeps the common subsequence found. -/
@[simp] theorem Align.kept_items {α : Type} [DecidableEq α] (old new : List α) :
    Edit.kept (items old new) = Common.subsequence old new :=
  Merge.kept_blocks (embedded_subsequence old new)

namespace Script

/-! ### Scripts for lines -/

/-- What two lists have in common: their shared ends, and what the middles have in common. -/
theorem longest_trim (old new : List Line) :
    Common.longest old new = (trim old new).start.length
      + Common.longest (trim old new).oldMiddle (trim old new).newMiddle
      + (trim old new).rest.length := by
  rw [← Common.longest_append_left, ← Common.longest_append_right, trim_old, trim_new]

/-- The walk through the table of the middles is cut short. -/
def Trimmed.Cut (t : Trimmed) : Prop :=
  Common.Cut t.oldMiddle t.newMiddle t.oldMiddle.length t.newMiddle.length

/-- A middle within the limits is replaced only where one of its sides is empty. -/
theorem Trimmed.eq_nil_of_replaced (t : Trimmed) (hreplaced : t.replaced = true)
    (h : t.oldMiddle.length * t.newMiddle.length ≤ maxCells) :
    t.oldMiddle = [] ∨ t.newMiddle = [] := by
  simp only [Trimmed.replaced, Bool.or_eq_true, decide_eq_true_eq, List.isEmpty_iff] at hreplaced
  exact hreplaced.resolve_right (Nat.not_lt.mpr h)

/-- A middle within the limits keeps what its sides have in common, less one line if the walk is
cut short. -/
theorem Trimmed.length_kept_middle {t : Trimmed}
    (h : t.oldMiddle.length * t.newMiddle.length ≤ maxCells) :
    (t.Cut → (Edit.kept t.middle).length + 1 = Common.longest t.oldMiddle t.newMiddle) ∧
      (¬ t.Cut → (Edit.kept t.middle).length = Common.longest t.oldMiddle t.newMiddle) := by
  rw [middle_eq]
  split
  · next hreplaced =>
      -- Within the limits only a middle with an empty side is replaced as a whole.
      have hkept : Edit.kept (t.oldMiddle.map .delete ++ t.newMiddle.map .insert) = [] := by simp
      rw [hkept, List.length_nil]
      rcases t.eq_nil_of_replaced hreplaced h with hnil | hnil
      · refine ⟨fun hcut => absurd hcut.one_lt (by simp [hnil]), fun _ => ?_⟩
        rw [hnil, Common.longest_nil_left]
      · refine ⟨fun hcut => absurd hcut ?_, fun _ => ?_⟩
        · rw [Trimmed.Cut, hnil]
          exact Common.not_cut_zero
        · rw [hnil, Common.longest_nil_right]
  · next =>
      have hcollects := Common.collects_subsequence t.oldMiddle t.newMiddle
      rw [Common.Collects, List.take_length, List.take_length] at hcollects
      rwa [Align.kept_items]

/-- A script with a middle within the limits keeps what the two sides have in common, less one
line if the walk is cut short. -/
theorem length_kept_ofLines {old new : List Line}
    (h : (trim old new).oldMiddle.length * (trim old new).newMiddle.length ≤ maxCells) :
    ((trim old new).Cut → (Edit.kept (ofLines old new)).length + 1 = Common.longest old new) ∧
      (¬ (trim old new).Cut →
        (Edit.kept (ofLines old new)).length = Common.longest old new) := by
  have hkept : Edit.kept (ofLines old new)
      = (trim old new).start ++ Edit.kept (trim old new).middle ++ (trim old new).rest := by
    unfold ofLines
    simp
  obtain ⟨hshort, hwhole⟩ := Trimmed.length_kept_middle h
  rw [hkept, longest_trim, List.length_append, List.length_append]
  exact ⟨fun hcut => by have := hshort hcut; omega, fun hcut => by have := hwhole hcut; omega⟩

/-- **A script with a middle within the limits is minimal exactly where the walk is not cut
short**; otherwise it keeps one line less than it could. -/
theorem minimal_ofLines_iff {old new : List Line}
    (h : (trim old new).oldMiddle.length * (trim old new).newMiddle.length ≤ maxCells) :
    (Edit.Minimal (ofLines old new) old new ↔ ¬ (trim old new).Cut) ∧
      Common.longest old new ≤ (Edit.kept (ofLines old new)).length + 1 := by
  obtain ⟨hshort, hwhole⟩ := length_kept_ofLines h
  rw [Edit.minimal_iff_length_kept (olds_ofLines old new) (news_ofLines old new)]
  by_cases hcut : (trim old new).Cut
  · have := hshort hcut
    exact ⟨⟨fun heq => by omega, fun hnot => absurd hcut hnot⟩, by omega⟩
  · have := hwhole hcut
    exact ⟨⟨fun _ => hcut, fun _ => this⟩, by omega⟩

/-- One line between two others is found again. -/
theorem minimal_ofLines_surrounded :
    ∃ old new : List Line, old = [⟨[112], true⟩] ∧
      new = [⟨[120], true⟩, ⟨[112], true⟩, ⟨[121], true⟩] ∧
      (trim old new).oldMiddle.length * (trim old new).newMiddle.length ≤ maxCells ∧
      Edit.Minimal (ofLines old new) old new := by
  have hcut : ¬ (trim [⟨[112], true⟩] [⟨[120], true⟩, ⟨[112], true⟩, ⟨[121], true⟩]).Cut :=
    fun h => absurd h.one_lt (by decide)
  exact ⟨_, _, rfl, rfl, by decide, (minimal_ofLines_iff (by decide)).1.mpr hcut⟩

/-- The new side only leaves lines out. But when the walk comes to the first column it stands below
the old line it looks for, and ends there, so that this line is not kept. -/
theorem not_minimal_ofLines_wrapped :
    let line : UInt8 → Line := fun b => ⟨[b], true⟩
    let old := [110, 120, 112, 113, 119, 112, 109].map line
    let new := [120, 119, 112].map line
    (trim old new).oldMiddle.length * (trim old new).newMiddle.length ≤ maxCells ∧
      new.Sublist old ∧ ¬ Edit.Minimal (ofLines old new) old new := by
  intro line old new
  have htrim : trim old new = ⟨[], old, new, []⟩ := by decide
  have hcells : (trim old new).oldMiddle.length * (trim old new).newMiddle.length ≤ maxCells := by
    rw [htrim]
    decide
  have hcut : (trim old new).Cut := by
    rw [htrim]
    have hup : Common.longest (old.take 7) (new.take 2)
        ≤ Common.longest (old.take 6) (new.take 3) := by
      rw [Common.longest_eq_length_right (by decide : (new.take 2).Sublist (old.take 7)),
        Common.longest_eq_length_right (by decide : (new.take 3).Sublist (old.take 6))]
      decide
    have hhere : Common.Cut old new 4 1 :=
      .here rfl rfl (by decide) (by decide) (by decide)
    exact .up rfl rfl (by decide) hup (.take rfl rfl (.take rfl rfl hhere))
  refine ⟨hcells, by decide, fun hminimal => ?_⟩
  have hshort := (length_kept_ofLines hcells).1 hcut
  rw [hminimal.kept] at hshort
  exact absurd hshort (Nat.succ_ne_self _)

end Script

end TwinRun
