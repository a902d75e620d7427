import Mathlib.Data.List.Sort
import TwinRun.Proofs.Diff.Ends

/-!
A block of lines more, or less.

If one list is the other one with a block of lines put in somewhere, trimming leaves nothing of the
shorter list: a common start that is longer than what stands before the block goes on into it, and
then as much of the block is left at its end (`drop_suffix_drop`). So neither the table nor the block
replacement has anything to align, whatever the sizes, and the script is one block of insertions
(`ofLines_inserted`), or the other way round one of deletions (`ofLines_deleted`).

A script with a single block of changes has a single hunk (`exists_hunk_of_block`).
-/

namespace TwinRun

/-- The script keeps everything but for one block of `count` items, all changed alike. -/
def Edit.OneBlock {α : Type} (change : α → Edit α) (count : Nat) (script : List (Edit α)) : Prop :=
  ∃ start block rest : List α,
    script = start.map .equal ++ block.map change ++ rest.map .equal ∧ block.length = count

/-- The hunk shows one block of `count` lines of one kind, and else only context. -/
def Hunk.OneBlock (kind : LineKind) (count : Nat) (h : Hunk) : Prop :=
  ∃ before block after : List DiffLine, h.lines = before ++ block ++ after ∧
    (∀ line ∈ before, line.kind = .context) ∧ (∀ line ∈ block, line.kind = kind) ∧
    (∀ line ∈ after, line.kind = .context) ∧ block.length = count

namespace Script

/-! ### Trimming -/

section Shared

variable {α : Type} [DecidableEq α]

theorem sharedStart_comm (as bs : List α) : sharedStart as bs = sharedStart bs as := by
  induction as generalizing bs with
  | nil => cases bs <;> rfl
  | cons a as ih =>
      cases bs with
      | nil => rfl
      | cons b bs =>
          rw [sharedStart_cons, sharedStart_cons, ih bs]
          by_cases h : a = b
          · rw [if_pos h, if_pos h.symm]
          · rw [if_neg h, if_neg (Ne.symm h)]

theorem sharedEnd_comm (as bs : List α) : sharedEnd as bs = sharedEnd bs as :=
  sharedStart_comm as.reverse bs.reverse

/-- A list that ends another one is all shared. -/
theorem sharedEnd_eq_length {as bs : List α} (h : as <:+ bs) : sharedEnd as bs = as.length := by
  have hle := sharedStart_le_left as.reverse bs.reverse
  have hge := length_le_sharedStart (List.prefix_refl _) (List.reverse_prefix.mpr h)
  rw [List.length_reverse] at hle hge
  exact Nat.le_antisymm hle hge

omit [DecidableEq α] in
/-- However far the common start of the two lists runs on behind `p`, what remains of the shorter
list ends what remains of the longer one. -/
theorem drop_suffix_drop (p b s : List α) {n : Nat} (hn : p.length ≤ n) :
    (p ++ s).drop n <:+ (p ++ b ++ s).drop n := by
  obtain ⟨m, rfl⟩ := Nat.exists_eq_add_of_le hn
  rw [← List.drop_drop, List.drop_left, List.append_assoc, ← List.drop_drop, List.drop_left]
  refine List.suffix_of_suffix_length_le
    ((List.drop_suffix m s).trans (List.suffix_append b s)) (List.drop_suffix m (b ++ s)) ?_
  rw [List.length_drop, List.length_drop, List.length_append]
  omega

end Shared

/-- Of the shorter list trimming leaves nothing, of the longer one as much as was put in. -/
theorem trim_inserted (p b s : List Line) :
    (trim (p ++ s) (p ++ b ++ s)).oldMiddle = [] ∧
      (trim (p ++ s) (p ++ b ++ s)).newMiddle.length = b.length := by
  have hstart : p.length ≤ sharedStart (p ++ s) (p ++ b ++ s) :=
    length_le_sharedStart (List.prefix_append p s)
      (List.append_assoc p b s ▸ List.prefix_append p (b ++ s))
  have hle := sharedStart_le_left (p ++ s) (p ++ b ++ s)
  have hend := sharedEnd_eq_length (drop_suffix_drop p b s hstart)
  simp only [trim, hend, Nat.sub_self, List.take_zero, true_and]
  simp only [List.length_take, List.length_drop, List.length_append] at hle ⊢
  omega

/-- Exchanging the two lists exchanges the middles. -/
theorem trim_comm (old new : List Line) :
    (trim new old).oldMiddle = (trim old new).newMiddle ∧
      (trim new old).newMiddle = (trim old new).oldMiddle := by
  simp only [trim, sharedStart_comm new old, sharedEnd_comm (new.drop _), and_self]

/-! ### The script -/

/-- Without an old middle the new one is inserted. -/
theorem Trimmed.middle_of_old_nil {t : Trimmed} (h : t.oldMiddle = []) :
    t.middle = t.newMiddle.map .insert := by
  simp only [middle, replaced, h, List.isEmpty_nil, Bool.true_or, if_true, List.map_nil,
    List.nil_append]

/-- Without a new middle the old one is deleted. -/
theorem Trimmed.middle_of_new_nil {t : Trimmed} (h : t.newMiddle = []) :
    t.middle = t.oldMiddle.map .delete := by
  simp only [middle, replaced, h, List.isEmpty_nil, Bool.or_true, Bool.true_or, if_true,
    List.map_nil, List.append_nil]

/-- The script of a list and a longer one, with a block put in somewhere. -/
theorem ofLines_inserted (p b s : List Line) :
    Edit.OneBlock .insert b.length (ofLines (p ++ s) (p ++ b ++ s)) := by
  obtain ⟨hold, hnew⟩ := trim_inserted p b s
  exact ⟨_, _, _, congrArg (fun middle => _ ++ middle ++ _) (Trimmed.middle_of_old_nil hold), hnew⟩

/-- The script of a list and a shorter one, with a block left out somewhere. -/
theorem ofLines_deleted (p b s : List Line) :
    Edit.OneBlock .delete b.length (ofLines (p ++ b ++ s) (p ++ s)) := by
  obtain ⟨hold, hnew⟩ := trim_inserted p b s
  obtain ⟨hold', hnew'⟩ := trim_comm (p ++ s) (p ++ b ++ s)
  rw [← hold'] at hnew
  rw [hold] at hnew'
  exact ⟨_, _, _, congrArg (fun middle => _ ++ middle ++ _) (Trimmed.middle_of_new_nil hnew'), hnew⟩

end Script

/-! ### The hunk -/

section Hunks

variable {start block rest : List (Edit Line)} {context place : Nat} {s : Span}

/-- The places of a single block of changes. -/
theorem mem_changePlaces_block (hstart : ∀ e ∈ start, e.isChange = false)
    (hblock : ∀ e ∈ block, e.isChange = true) (hrest : ∀ e ∈ rest, e.isChange = false) :
    place ∈ changePlaces (start ++ block ++ rest) ↔
      start.length ≤ place ∧ place < start.length + block.length := by
  rw [mem_changePlaces, List.append_assoc]
  constructor
  · rintro ⟨e, he, hchange⟩
    have hnot : ∀ l : List (Edit Line), (∀ e ∈ l, e.isChange = false) → e ∉ l := by
      intro l hl hmem
      rw [hl e hmem] at hchange
      cases hchange
    have hfrom : start.length ≤ place := by
      by_contra hlt
      rw [List.getElem?_append_left (Nat.lt_of_not_le hlt)] at he
      exact hnot start hstart (List.mem_of_getElem? he)
    refine ⟨hfrom, ?_⟩
    by_contra hge
    rw [List.getElem?_append_right hfrom, List.getElem?_append_right (by omega)] at he
    exact hnot rest hrest (List.mem_of_getElem? he)
  · rintro ⟨hfrom, hto⟩
    have hplace : place - start.length < block.length := by omega
    refine ⟨block[place - start.length], ?_, hblock _ (List.getElem_mem hplace)⟩
    rw [List.getElem?_append_right hfrom, List.getElem?_append_left hplace,
      List.getElem?_eq_getElem hplace]

theorem changePlaces_block (hstart : ∀ e ∈ start, e.isChange = false)
    (hblock : ∀ e ∈ block, e.isChange = true) (hrest : ∀ e ∈ rest, e.isChange = false) :
    changePlaces (start ++ block ++ rest) = List.range' start.length block.length :=
  (changePlaces_pairwise _).eq_of_mem_iff List.pairwise_lt_range' fun _ =>
    (mem_changePlaces_block hstart hblock hrest).trans List.mem_range'_1.symm

/-- A single block of changes makes a single span: each of its places is next to the one before
it. -/
theorem spans_block (hstart : ∀ e ∈ start, e.isChange = false)
    (hblock : ∀ e ∈ block, e.isChange = true) (hrest : ∀ e ∈ rest, e.isChange = false)
    (hne : block ≠ []) (context : Nat) :
    spans (start ++ block ++ rest) context
      = [⟨start.length, start.length + block.length - 1⟩] := by
  have hlength : block.length ≠ 0 := mt List.length_eq_zero_iff.mp hne
  have hchain : (List.range' start.length block.length).IsChain
      fun a b => Span.near context a b := by
    refine (List.isChain_range' start.length block.length 1).imp fun a b hab => ?_
    simp [Span.near, hab]
  rw [spans, changePlaces_block hstart hblock hrest, Span.group_eq_splitBy,
    List.splitBy_of_isChain (mt List.range'_eq_nil_iff.mp hlength) hchain, List.map_singleton,
    Span.ofPlaces, List.head?_range', List.getLast?_range', if_neg hlength, if_neg hlength]
  rfl

/-- The window of a single block of changes: the block with the context around it. -/
theorem edits_window_block (start block rest : List (Edit Line)) (hne : block ≠ [])
    (context : Nat) :
    (Span.window context (start ++ block ++ rest).length
        ⟨start.length, start.length + block.length - 1⟩).edits (start ++ block ++ rest)
      = start.drop (start.length - context) ++ block ++ rest.take context := by
  have hlength := List.length_pos_of_ne_nil hne
  have hdrop : (start ++ block ++ rest).drop (start.length - context)
      = start.drop (start.length - context) ++ block ++ rest := by
    rw [List.append_assoc, List.drop_append_of_le_length (Nat.sub_le _ _), ← List.append_assoc]
  -- The end of the window is counted from the start of the script; what is cut off in front comes
  -- off.
  have hfront : (start.drop (start.length - context) ++ block).length
      = start.length - (start.length - context) + block.length := by
    rw [List.length_append, List.length_drop]
  simp only [Window.edits, Span.window, hdrop, List.length_append]
  rw [List.take_append, hfront, List.take_of_length_le (by rw [hfront]; omega)]
  refine congrArg (start.drop (start.length - context) ++ block ++ ·) ?_
  rcases Nat.le_total context rest.length with hcontext | hcontext
  · refine congrArg (rest.take ·) ?_
    omega
  · rw [List.take_of_length_le hcontext, List.take_of_length_le (by omega)]

/-- A single block of changes is shown in a single hunk, with the context around it. -/
theorem exists_hunk_of_block (hstart : ∀ e ∈ start, e.isChange = false)
    (hblock : ∀ e ∈ block, e.isChange = true) (hrest : ∀ e ∈ rest, e.isChange = false)
    (hne : block ≠ []) (context : Nat) :
    ∃ h, Hunk.ofScript (start ++ block ++ rest) context = [h] ∧
      h.lines = (start.drop (start.length - context) ++ block ++ rest.take context).map
        DiffLine.ofEdit := by
  have hwindows := windows_eq_map_spans (start ++ block ++ rest) context
  have hlines := Hunk.lines_ofScript (start ++ block ++ rest) context
  rw [spans_block hstart hblock hrest hne, List.map_singleton] at hwindows
  rw [hwindows, List.map_singleton, edits_window_block start block rest hne] at hlines
  obtain ⟨h, hh, heq⟩ := List.map_eq_singleton_iff.mp hlines
  exact ⟨h, hh, heq⟩

/-- A script that keeps everything but for one block is shown in one hunk with that block. -/
theorem exists_hunk_of_oneBlock {script : List (Edit Line)} {change : Line → Edit Line}
    {kind : LineKind} {count : Nat} (hchange : ∀ line, (change line).isChange = true)
    (hkind : ∀ line, (DiffLine.ofEdit (change line)).kind = kind)
    (h : Edit.OneBlock change count script) (hcount : count ≠ 0) (context : Nat) :
    ∃ hunk, Hunk.ofScript script context = [hunk] ∧ Hunk.OneBlock kind count hunk := by
  obtain ⟨start, block, rest, rfl, rfl⟩ := h
  have hblock : ∀ e ∈ block.map change, e.isChange = true :=
    List.forall_mem_map.mpr fun line _ => hchange line
  have hne : block.map change ≠ [] :=
    mt List.map_eq_nil_iff.mp (mt List.length_eq_zero_iff.mpr hcount)
  have hcontext : ∀ {lines : List Line} {l : List (Edit Line)}, l ⊆ lines.map .equal →
      ∀ line ∈ l.map DiffLine.ofEdit, line.kind = .context := by
    intro lines l hsub line hline
    obtain ⟨e, he, rfl⟩ := List.mem_map.mp hline
    obtain ⟨kept, -, rfl⟩ := List.mem_map.mp (hsub he)
    rfl
  obtain ⟨hunk, hhunk, hlines⟩ := exists_hunk_of_block (Edit.isChange_map_equal start) hblock
    (Edit.isChange_map_equal rest) hne context
  rw [List.map_append, List.map_append] at hlines
  exact ⟨hunk, hhunk, _, _, _, hlines, hcontext (List.drop_subset _ _),
    List.forall_mem_map.mpr (List.forall_mem_map.mpr fun line _ => hkind line),
    hcontext (List.take_subset _ _), by rw [List.length_map, List.length_map]⟩

end Hunks

/-- **A block put in or left out is reported as just that, at any size.** Where one list of lines is
the other one with a block of lines put in, the script inserts as many lines in one block and
deletes none; the other way round it deletes them and inserts none. Unless the block is empty there
is one hunk, and it shows the block and nothing else changed. -/
theorem ofLines_oneBlock (p b s : List Line) :
    Edit.OneBlock .insert b.length (Script.ofLines (p ++ s) (p ++ b ++ s)) ∧
      Edit.OneBlock .delete b.length (Script.ofLines (p ++ b ++ s) (p ++ s)) ∧
      (b ≠ [] → ∀ context,
        (∃ h, Hunk.ofScript (Script.ofLines (p ++ s) (p ++ b ++ s)) context = [h] ∧
          Hunk.OneBlock .added b.length h) ∧
        ∃ h, Hunk.ofScript (Script.ofLines (p ++ b ++ s) (p ++ s)) context = [h] ∧
          Hunk.OneBlock .removed b.length h) := by
  have hinserted := Script.ofLines_inserted p b s
  have hdeleted := Script.ofLines_deleted p b s
  refine ⟨hinserted, hdeleted, fun hne context => ?_⟩
  have hcount : b.length ≠ 0 := mt List.length_eq_zero_iff.mp hne
  have hadded : ∀ line : Line, (DiffLine.ofEdit (.insert line)).kind = .added := fun _ => rfl
  have hremoved : ∀ line : Line, (DiffLine.ofEdit (.delete line)).kind = .removed := fun _ => rfl
  exact ⟨exists_hunk_of_oneBlock (fun _ => rfl) hadded hinserted hcount context,
    exists_hunk_of_oneBlock (fun _ => rfl) hremoved hdeleted hcount context⟩

/-- Among lines like them, two lines more are one block of two. -/
theorem ofLines_oneBlock_repeated :
    let line : UInt8 → Line := fun b => ⟨[b], true⟩
    let p := [97, 98].map line
    let b := [97, 98].map line
    let s := [97, 97].map line
    b ≠ [] ∧ ∃ h, Hunk.ofScript (Script.ofLines (p ++ s) (p ++ b ++ s)) 1 = [h] ∧
      Hunk.OneBlock .added 2 h := by
  intro line p b s
  have hne : b ≠ [] := by decide
  exact ⟨hne, ((ofLines_oneBlock p b s).2.2 hne 1).1⟩

end TwinRun
