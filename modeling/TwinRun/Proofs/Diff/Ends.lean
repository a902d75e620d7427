import TwinRun.Proofs.Comparison
import TwinRun.Proofs.Diff.Grouping

/-!
Where a script starts and stops to change something.

Trimming cuts off as much as it can: the longest common start (`longestStart_trim`) and, of what
remains, the longest common end (`longestEnd_trim`). A middle can then neither start nor end with a
kept line, however it is aligned: that line would stand first, or last, in both middles
(`Trimmed.isChange_head`, `Trimmed.isChange_getLast`).

So the report of two different byte strings starts at the first line in which they differ and ends
at the last one (`diff_ends`).
-/

namespace TwinRun

/-! ### Longest common ends -/

section Longest

variable {α : Type} {as bs common c : List α}

/-- A start of both lists, as long as any. -/
structure LongestStart (common as bs : List α) : Prop where
  left : common <+: as
  right : common <+: bs
  longest : ∀ c, c <+: as → c <+: bs → c.length ≤ common.length

structure LongestEnd (common as bs : List α) : Prop where
  left : common <:+ as
  right : common <:+ bs
  longest : ∀ c, c <:+ as → c <:+ bs → c.length ≤ common.length

/-- There is only one longest common start. -/
theorem LongestStart.eq (h : LongestStart common as bs) (h' : LongestStart c as bs) :
    common = c :=
  (List.prefix_of_prefix_length_le h.left h'.left (h'.longest _ h.left h.right)).eq_of_length_le
    (h.longest _ h'.left h'.right)

theorem LongestEnd.eq (h : LongestEnd common as bs) (h' : LongestEnd c as bs) : common = c :=
  (List.suffix_of_suffix_length_le h.left h'.left (h'.longest _ h.left h.right)).eq_of_length_le
    (h.longest _ h'.left h'.right)

/-- Two lists have at one end in common what their mirror images have at the other. -/
theorem LongestStart.reverse (h : LongestStart common as.reverse bs.reverse) :
    LongestEnd common.reverse as bs where
  left := by rw [← List.reverse_prefix, List.reverse_reverse]; exact h.left
  right := by rw [← List.reverse_prefix, List.reverse_reverse]; exact h.right
  longest c hleft hright := by
    have hlength := h.longest c.reverse (List.reverse_prefix.mpr hleft)
      (List.reverse_prefix.mpr hright)
    rwa [List.length_reverse] at hlength ⊢

/-- Behind the longest common start the lists do not go on with the same item. -/
theorem LongestStart.not_concat {a : α} (h : LongestStart common as bs)
    (hleft : common ++ [a] <+: as) (hright : common ++ [a] <+: bs) : False := by
  have hlength := h.longest (common ++ [a]) hleft hright
  rw [List.length_append, List.length_singleton] at hlength
  omega

/-- Before the longest common end the lists do not have the same item. -/
theorem LongestEnd.not_cons {a : α} (h : LongestEnd common as bs)
    (hleft : a :: common <:+ as) (hright : a :: common <:+ bs) : False := by
  have hlength := h.longest (a :: common) hleft hright
  rw [List.length_cons] at hlength
  omega

end Longest

namespace Script

/-! ### What trimming cuts off -/

section Shared

variable {α : Type} [DecidableEq α]

theorem sharedStart_le_left (as bs : List α) : sharedStart as bs ≤ as.length := by
  unfold sharedStart
  exact (List.takeWhile_prefix _).length_le.trans (by rw [List.length_zip]; exact min_le_left _ _)

/-- No common start is longer than what two lists share at the start. -/
theorem length_le_sharedStart {c as bs : List α} (hleft : c <+: as) (hright : c <+: bs) :
    c.length ≤ sharedStart as bs := by
  induction c generalizing as bs with
  | nil => exact Nat.zero_le _
  | cons a c ih =>
      obtain ⟨as, rfl⟩ := hleft
      obtain ⟨bs, rfl⟩ := hright
      rw [List.cons_append, List.cons_append, sharedStart_cons, if_pos rfl, List.length_cons]
      exact Nat.succ_le_succ (ih (List.prefix_append _ _) (List.prefix_append _ _))

theorem longestStart_take (as bs : List α) :
    LongestStart (as.take (sharedStart as bs)) as bs where
  left := List.take_prefix _ _
  right := take_sharedStart as bs ▸ List.take_prefix _ _
  longest c hleft hright := by
    rw [List.length_take, Nat.min_eq_left (sharedStart_le_left as bs)]
    exact length_le_sharedStart hleft hright

theorem longestEnd_drop (as bs : List α) :
    LongestEnd (as.drop (as.length - sharedEnd as bs)) as bs := by
  have hend := (longestStart_take as.reverse bs.reverse).reverse
  rwa [List.take_reverse, List.reverse_reverse] at hend

end Shared

variable {old new start rest : List Line}

theorem longestStart_trim (old new : List Line) : LongestStart (trim old new).start old new :=
  longestStart_take old new

theorem longestEnd_trim (old new : List Line) :
    LongestEnd (trim old new).rest (old.drop (trim old new).start.length)
      (new.drop (trim old new).start.length) := by
  have hlength : (trim old new).start.length = sharedStart old new := by
    rw [trim, List.length_take, Nat.min_eq_left (sharedStart_le_left old new)]
  rw [hlength]
  exact longestEnd_drop _ _

theorem drop_trim_old (old new : List Line) :
    old.drop (trim old new).start.length = (trim old new).oldMiddle ++ (trim old new).rest := by
  conv => lhs; arg 2; rw [← trim_old old new]
  rw [List.append_assoc, List.drop_left]

theorem drop_trim_new (old new : List Line) :
    new.drop (trim old new).start.length = (trim old new).newMiddle ++ (trim old new).rest := by
  conv => lhs; arg 2; rw [← trim_new old new]
  rw [List.append_assoc, List.drop_left]

/-! ### The ends of the middle -/

/-- The middle does not start with a kept line: behind the longest common start of the two sides
the same line would follow on both. -/
theorem Trimmed.isChange_head {e : Edit Line} (h : (trim old new).middle.head? = some e) :
    e.isChange = true := by
  obtain ⟨middle, hmiddle⟩ := List.head?_eq_some_iff.mp h
  cases e with
  | delete line => rfl
  | insert line => rfl
  | equal line =>
      have hold : (trim old new).oldMiddle = [line] ++ Edit.olds middle := by
        rw [← olds_middle, hmiddle]
        rfl
      have hnew : (trim old new).newMiddle = [line] ++ Edit.news middle := by
        rw [← news_middle, hmiddle]
        rfl
      have hleft := trim_old old new
      have hright := trim_new old new
      rw [hold, ← List.append_assoc, List.append_assoc] at hleft
      rw [hnew, ← List.append_assoc, List.append_assoc] at hright
      exact ((longestStart_trim old new).not_concat ⟨_, hleft⟩ ⟨_, hright⟩).elim

/-- The middle does not end with a kept line. -/
theorem Trimmed.isChange_getLast {e : Edit Line} (h : (trim old new).middle.getLast? = some e) :
    e.isChange = true := by
  obtain ⟨middle, hmiddle⟩ := List.getLast?_eq_some_iff.mp h
  cases e with
  | delete line => rfl
  | insert line => rfl
  | equal line =>
      have hold : (trim old new).oldMiddle = Edit.olds middle ++ [line] := by
        rw [← olds_middle, hmiddle, Edit.olds_append]
        rfl
      have hnew : (trim old new).newMiddle = Edit.news middle ++ [line] := by
        rw [← news_middle, hmiddle, Edit.news_append]
        rfl
      have hleft := drop_trim_old old new
      have hright := drop_trim_new old new
      rw [hold, List.append_assoc, List.singleton_append] at hleft
      rw [hnew, List.append_assoc, List.singleton_append] at hright
      exact ((longestEnd_trim old new).not_cons ⟨_, hleft.symm⟩ ⟨_, hright.symm⟩).elim

/-- Two different lists have a middle. -/
theorem middle_ne_nil (h : old ≠ new) : (trim old new).middle ≠ [] := by
  intro hnil
  have hold := Trimmed.olds_middle (trim old new)
  have hnew := Trimmed.news_middle (trim old new)
  rw [hnil] at hold hnew
  refine h ?_
  calc old = (trim old new).start ++ (trim old new).oldMiddle ++ (trim old new).rest :=
        (trim_old old new).symm
    _ = (trim old new).start ++ (trim old new).newMiddle ++ (trim old new).rest := by
        rw [← hold, ← hnew]
        rfl
    _ = new := trim_new old new

/-- The script of two different lists keeps their longest common start, then changes something, up
to a last change, and keeps the longest common end of what remains. -/
theorem ofLines_ends (hne : old ≠ new) (hstart : LongestStart start old new)
    (hrest : LongestEnd rest (old.drop start.length) (new.drop start.length)) :
    ∃ middle first last,
      ofLines old new = start.map .equal ++ middle ++ rest.map .equal ∧
      middle.head? = some first ∧ first.isChange = true ∧
      middle.getLast? = some last ∧ last.isChange = true := by
  obtain rfl := hstart.eq (longestStart_trim old new)
  obtain rfl := hrest.eq (longestEnd_trim old new)
  have hmiddle := middle_ne_nil hne
  have hfirst := List.head?_eq_some_head hmiddle
  have hlast := List.getLast?_eq_some_getLast hmiddle
  exact ⟨_, _, _, rfl, hfirst, Trimmed.isChange_head hfirst, hlast,
    Trimmed.isChange_getLast hlast⟩

end Script

/-! ### The ends of the report -/

section Report

variable {start middle rest : List (Edit Line)} {first last : Edit Line}

/-- Up to the first change of its middle, a script with kept ends keeps its start. -/
theorem Edit.keptBefore_of_head (hstart : ∀ e ∈ start, e.isChange = false)
    (hfirst : middle.head? = some first) (hchange : first.isChange = true)
    (rest : List (Edit Line)) :
    Edit.keptBefore (start ++ middle ++ rest) = start.length := by
  obtain ⟨behind, rfl⟩ := List.head?_eq_some_iff.mp hfirst
  rw [List.append_assoc, List.cons_append, keptBefore_append_cons hstart hchange]

theorem Edit.keptBehind_of_getLast (hrest : ∀ e ∈ rest, e.isChange = false)
    (hlast : middle.getLast? = some last) (hchange : last.isChange = true)
    (start : List (Edit Line)) :
    Edit.keptBehind (start ++ middle ++ rest) = rest.length := by
  obtain ⟨before, rfl⟩ := List.getLast?_eq_some_iff.mp hlast
  rw [← List.append_assoc, List.append_assoc _ [last], List.singleton_append,
    keptBehind_append_cons hrest hchange]

theorem Edit.isChange_map_equal (lines : List Line) :
    ∀ e ∈ lines.map Edit.equal, e.isChange = false :=
  List.forall_mem_map.mpr fun _ _ => rfl

/-- The first hunk of a script starts with the context, or with all that is kept before it; the
last one ends with the context, or with all that is kept behind it. -/
theorem Hunk.ends_ofScript {script : List (Edit Line)} {context : Nat}
    (h : ofScript script context ≠ []) :
    ∃ first last, (ofScript script context).head? = some first ∧
      first.contextBefore = min context (Edit.keptBefore script) ∧
      (ofScript script context).getLast? = some last ∧
      last.contextBehind = min context (Edit.keptBehind script) := by
  have hgrouping := grouping_ofScript script context
  have hlength := List.length_pos_of_ne_nil h
  have hfirst := List.head?_eq_some_head h
  have hlast := List.getLast?_eq_some_getLast h
  refine ⟨_, _, hfirst, ?_, hlast, ?_⟩
  · rw [List.head?_eq_getElem?] at hfirst
    rw [hgrouping.before _ _ hfirst, if_pos rfl]
  · rw [List.getLast?_eq_getElem?] at hlast
    rw [hgrouping.behind _ _ hlast, if_pos (Nat.sub_add_cancel hlength)]

end Report

/-- **The report starts at the first divergent line and ends at the last one.** The script of two
different byte strings keeps the longest common start of their lines and the longest common end of
what remains, and between them it starts and ends with a change. So the first hunk of a diff starts
with the context, cut off only where that start is shorter, and the last one ends likewise. -/
theorem diff_ends {old new : Bytes} {start rest : List Line} (hne : old ≠ new)
    (hstart : LongestStart start (Line.split old) (Line.split new))
    (hrest : LongestEnd rest ((Line.split old).drop start.length)
      ((Line.split new).drop start.length)) :
    (∃ middle first last,
      Script.ofLines (Line.split old) (Line.split new)
        = start.map .equal ++ middle ++ rest.map .equal ∧
      middle.head? = some first ∧ first.isChange = true ∧
      middle.getLast? = some last ∧ last.isChange = true) ∧
    ∀ context, ∃ first last, (diff old new context).head? = some first ∧
      first.contextBefore = min context start.length ∧
      (diff old new context).getLast? = some last ∧
      last.contextBehind = min context rest.length := by
  have hscript := Script.ofLines_ends (Line.split_injective.ne hne) hstart hrest
  refine ⟨hscript, fun context => ?_⟩
  obtain ⟨middle, first, last, hmiddle, hfirst, hfirstChange, hlast, hlastChange⟩ := hscript
  have hends := Hunk.ends_ofScript (mt diff_eq_nil.mp hne : diff old new context ≠ [])
  -- What the script keeps before its first change is the common start, and behind its last one the
  -- common end.
  have hbefore := Edit.keptBefore_of_head (Edit.isChange_map_equal start) hfirst hfirstChange
    (rest.map .equal)
  have hbehind := Edit.keptBehind_of_getLast (Edit.isChange_map_equal rest) hlast hlastChange
    (start.map .equal)
  rw [← hmiddle, List.length_map] at hbefore hbehind
  rwa [hbefore, hbehind] at hends

/-- Two lines that changed places among lines like them: one line is kept on either side. -/
theorem diff_ends_swapped :
    let line : UInt8 → Line := fun b => ⟨[b], true⟩
    let old : Bytes := [97, 10, 98, 10, 97, 10, 97, 10]
    let new : Bytes := [97, 10, 97, 10, 98, 10, 97, 10]
    old ≠ new ∧ LongestStart [line 97] (Line.split old) (Line.split new) ∧
      LongestEnd [line 97] ((Line.split old).drop 1) ((Line.split new).drop 1) ∧
      ∃ first last, (diff old new 3).head? = some first ∧ first.contextBefore = 1 ∧
        (diff old new 3).getLast? = some last ∧ last.contextBehind = 1 := by
  intro line old new
  have hne : old ≠ new := by decide
  have htake : (Line.split old).take (Script.sharedStart (Line.split old) (Line.split new))
      = [line 97] := by decide
  have hdrop : ((Line.split old).drop 1).drop (((Line.split old).drop 1).length
      - Script.sharedEnd ((Line.split old).drop 1) ((Line.split new).drop 1)) = [line 97] := by
    decide
  have hstart : LongestStart [line 97] (Line.split old) (Line.split new) :=
    htake ▸ Script.longestStart_take _ _
  have hrest : LongestEnd [line 97] ((Line.split old).drop 1) ((Line.split new).drop 1) :=
    hdrop ▸ Script.longestEnd_drop _ _
  exact ⟨hne, hstart, hrest, (diff_ends hne hstart hrest).2 3⟩

end TwinRun
