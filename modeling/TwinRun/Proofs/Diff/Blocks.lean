import TwinRun.Proofs.Diff.Widening
import TwinRun.Proofs.Text.Lines

/-!
Blocks of changes.

Within a block of changes all deletions come before all insertions. A pass of the merge deletes and
then inserts, and what it leaves is settled: both sides start with the next common item, or nothing
is left (`Merge.State.settled_pass`). So the next pass starts by keeping an item, and no deletion
follows an insertion directly (`Edit.DeletesFirst`).

Only the last line of a side can lack its line feed, so nothing else of that side is shown behind it
(`flagged_pairwise`), and no line is kept behind it.

* `diff_blocks`: what this means for the script and for the hunks of every diff.
-/

namespace TwinRun

/-! ### Deletions before insertions -/

namespace Edit

variable {α : Type} {script block : List (Edit α)}

/-- An edit may stand directly before another one unless it inserts and the other one deletes. -/
def MayPrecede : Edit α → Edit α → Prop
  | insert _, delete _ => False
  | _, _ => True

/-- No deletion follows an insertion directly. -/
def DeletesFirst (script : List (Edit α)) : Prop := script.IsChain MayPrecede

theorem mayPrecede_equal (e : Edit α) (a : α) : MayPrecede e (equal a) := by
  cases e <;> trivial

theorem equal_mayPrecede (a : α) (e : Edit α) : MayPrecede (equal a) e := by
  cases e <;> trivial

theorem delete_mayPrecede (a : α) (e : Edit α) : MayPrecede (delete a) e := by
  cases e <;> trivial

theorem mayPrecede_insert (e : Edit α) (a : α) : MayPrecede e (insert a) := by
  cases e <;> trivial

/-- Edits that are all of one kind come in any order. -/
theorem deletesFirst_map {edit : α → Edit α} (h : ∀ a b, MayPrecede (edit a) (edit b))
    (l : List α) : DeletesFirst (l.map edit) := by
  rw [DeletesFirst, List.isChain_map]
  exact List.Pairwise.isChain (List.pairwise_of_forall h)

theorem DeletesFirst.part (h : DeletesFirst script) (hpart : block <:+: script) :
    DeletesFirst block := List.IsChain.infix h hpart

/-- What is kept at the start of a script does not matter, -/
theorem DeletesFirst.equals_append (h : DeletesFirst script) (l : List α) :
    DeletesFirst (l.map equal ++ script) := by
  refine List.IsChain.append (deletesFirst_map (fun a b => equal_mayPrecede a (equal b)) l) h ?_
  intro x hx y _
  obtain ⟨a, -, rfl⟩ := List.mem_map.mp (List.mem_of_getLast? hx)
  exact equal_mayPrecede a y

/-- nor does what is kept at its end. -/
theorem DeletesFirst.append_equals (h : DeletesFirst script) (l : List α) :
    DeletesFirst (script ++ l.map equal) := by
  refine List.IsChain.append h (deletesFirst_map (fun a b => equal_mayPrecede a (equal b)) l) ?_
  intro x _ y hy
  obtain ⟨a, -, rfl⟩ := List.mem_map.mp (List.mem_of_head? hy)
  exact mayPrecede_equal x a

/-- A block of deletions and then of insertions. -/
theorem deletesFirst_block (removed added : List α) :
    DeletesFirst (removed.map delete ++ added.map insert) := by
  refine List.IsChain.append (deletesFirst_map (fun a b => delete_mayPrecede a (delete b)) removed)
    (deletesFirst_map (fun a b => mayPrecede_insert (insert a) b) added) ?_
  intro x hx y _
  obtain ⟨a, -, rfl⟩ := List.mem_map.mp (List.mem_of_getLast? hx)
  exact delete_mayPrecede a y

/-- Changes that start with an insertion go on with insertions. -/
theorem DeletesFirst.all_insert {a : α} (h : DeletesFirst (insert a :: block))
    (hblock : ∀ e ∈ block, e.isChange = true) : ∃ added : List α, block = added.map insert := by
  induction block generalizing a with
  | nil => exact ⟨[], rfl⟩
  | cons e block ih =>
      obtain ⟨he, hrest⟩ := List.forall_mem_cons.mp hblock
      obtain ⟨hprecede, htail⟩ := List.isChain_cons_cons.mp h
      cases e with
      | equal b => cases he
      | delete b => exact hprecede.elim
      | insert b =>
          obtain ⟨added, rfl⟩ := ih htail hrest
          exact ⟨b :: added, rfl⟩

/-- A block of changes deletes first and inserts then. -/
theorem DeletesFirst.exists_runs (h : DeletesFirst block)
    (hblock : ∀ e ∈ block, e.isChange = true) :
    ∃ removed added : List α, block = removed.map delete ++ added.map insert := by
  induction block with
  | nil => exact ⟨[], [], rfl⟩
  | cons e block ih =>
      obtain ⟨he, hrest⟩ := List.forall_mem_cons.mp hblock
      cases e with
      | equal a => cases he
      | delete a =>
          obtain ⟨removed, added, rfl⟩ := ih (List.IsChain.tail h) hrest
          exact ⟨a :: removed, added, rfl⟩
      | insert a =>
          obtain ⟨added, rfl⟩ := h.all_insert hrest
          exact ⟨[], a :: added, rfl⟩

end Edit

/-! ### Passes of a merge -/

namespace Merge

variable {α : Type} [DecidableEq α]

/-- Both sides start with the next common item, or nothing is left of them. -/
structure State.Settled (s : State α) : Prop where
  old : s.old.head? = s.common.head?
  new : s.new.head? = s.common.head?

/-- What is left behind the items that are passed over starts with the next common item. -/
theorem State.head?_dropWhile_differs (s : State α) {l : List α} (h : s.common.Sublist l) :
    (l.dropWhile s.differs).head? = s.common.head? := by
  have hleft := s.sublist_dropWhile_differs h
  cases hrest : l.dropWhile s.differs with
  | nil =>
      rw [hrest] at hleft
      rw [List.sublist_nil.mp hleft]
  | cons a rest =>
      have ha : ¬ s.differs a = true := by
        have hhead := List.head?_dropWhile_not s.differs l
        rw [hrest] at hhead
        simpa using hhead
      have hc : s.common.head? = some a := by simpa [State.differs] using ha
      rw [hc, List.head?_cons]

/-- A pass leaves its two sides settled. -/
theorem State.Embedded.settled_pass {s : State α} (h : s.Embedded) : (Merge.pass s).2.Settled := by
  obtain ⟨same, -, hold, hnew, hcommon, -⟩ := takeSame_spec [] s
  have hold' := h.old
  have hnew' := h.new
  rw [hold, hcommon, List.append_sublist_append_left] at hold'
  rw [hnew, hcommon, List.append_sublist_append_left] at hnew'
  rw [pass_eq]
  exact ⟨State.head?_dropWhile_differs _ hold', State.head?_dropWhile_differs _ hnew'⟩

/-- A pass over settled sides starts by keeping an item. -/
theorem State.Settled.head_pass {s : State α} (h : s.Settled) (hremaining : s.remaining ≠ 0) :
    ∃ a rest, edits (Merge.pass s).1 = .equal a :: rest := by
  obtain ⟨same, htaken, hold, hnew, hcommon, hhead⟩ := takeSame_spec [] s
  rw [edits_pass, htaken]
  cases same with
  | cons a same => exact ⟨a, _, rfl⟩
  | nil =>
      -- Nothing has been taken, so the sides do not start with a common item: nothing is left.
      simp only [List.nil_append] at hold hnew hcommon
      exfalso
      cases hc : s.common.head? with
      | some c =>
          refine hhead ⟨c, ?_, ?_, ?_⟩
          · rw [← hold, h.old, hc]
          · rw [← hnew, h.new, hc]
          · rw [← hcommon, hc]
      | none =>
          have hnone := h.old.trans hc
          have hnone' := h.new.trans hc
          rw [List.head?_eq_none_iff] at hnone hnone'
          simp [State.remaining, hnone, hnone'] at hremaining

/-- A merge that goes on from settled sides starts by keeping an item. -/
theorem State.Settled.head_blocks {s : State α} (h : s.Settled) {e : Edit α}
    (he : (edits (blocks s)).head? = some e) : ∃ a, e = .equal a := by
  rw [blocks] at he
  split at he
  · cases he
  · next hremaining =>
      split at he
      · obtain ⟨a, rest, hpass⟩ := h.head_pass hremaining
        rw [edits_append, hpass] at he
        exact ⟨a, (Option.some.inj he).symm⟩
      · cases he

/-- A pass deletes before it inserts. -/
theorem deletesFirst_pass (s : State α) : Edit.DeletesFirst (edits (pass s).1) := by
  rw [edits_pass, List.append_assoc]
  exact (Edit.deletesFirst_block _ _).equals_append _

/-- In a merge no deletion follows an insertion directly: between two passes an item is kept. -/
theorem deletesFirst_blocks {s : State α} (h : s.Embedded) :
    Edit.DeletesFirst (edits (blocks s)) := by
  fun_induction blocks s with
  | case1 s hzero => exact List.IsChain.nil
  | case2 s hremaining hprogress ih =>
      rw [edits_append]
      refine List.IsChain.append (deletesFirst_pass s) (ih h.pass) ?_
      intro x _ y hy
      obtain ⟨a, rfl⟩ := h.settled_pass.head_blocks hy
      exact Edit.mayPrecede_equal x a
  | case3 s hremaining hstuck => exact List.IsChain.nil

end Merge

namespace Script

/-- Whether the middle is aligned or replaced, deletions come first. -/
theorem Trimmed.deletesFirst_middle (t : Trimmed) : Edit.DeletesFirst t.middle := by
  rw [Trimmed.middle_eq]
  split
  · exact Edit.deletesFirst_block _ _
  · exact Merge.deletesFirst_blocks (Align.embedded_subsequence _ _)

/-- In a script for lines no deletion follows an insertion directly. -/
theorem deletesFirst_ofLines (old new : List Line) : Edit.DeletesFirst (ofLines old new) := by
  unfold ofLines
  rw [List.append_assoc]
  exact ((trim old new).deletesFirst_middle.append_equals _).equals_append _

end Script

/-! ### Without context -/

section Contextless

variable {script : List (Edit Line)} {w : Window}

/-- Without context a span holds nothing but its places. -/
theorem Span.mem_of_contextless {places : List Nat} {s : Span} {i : Nat}
    (hsorted : places.Pairwise (· < ·)) (hs : s ∈ group 0 places) (hfirst : s.first ≤ i)
    (hlast : i ≤ s.last) : i ∈ places := by
  induction i, hfirst using Nat.le_induction with
  | base => exact first_mem hsorted hs
  | succ i hfirst ih =>
      have hi := ih (by omega)
      obtain ⟨n, hn, hin, hns, hnext⟩ :=
        exists_next (last_mem hsorted hs) (Nat.lt_of_succ_le hlast)
      have hnear := near_of_mem_group hsorted hs hi hn hin hnext hfirst hns
      obtain rfl : n = i + 1 := by omega
      exact hn

/-- Without context a window shows nothing but changes. -/
theorem isChange_of_contextless (hw : w ∈ windows script 0) :
    ∀ e ∈ w.edits script, e.isChange = true := by
  intro e he
  rw [windows_eq_map_spans] at hw
  obtain ⟨s, hs, rfl⟩ := List.mem_map.mp hw
  obtain ⟨i, hi, rfl⟩ := List.getElem_of_mem he
  simp only [Window.edits, Span.window, List.length_take, List.length_drop] at hi
  have hplace : s.first + i ∈ changePlaces script :=
    Span.mem_of_contextless (changePlaces_pairwise script) hs (by omega) (by omega)
  obtain ⟨e, he, hchange⟩ := mem_changePlaces.mp hplace
  obtain ⟨hlength, rfl⟩ := List.getElem?_eq_some_iff.mp he
  simpa only [Window.edits, Span.window, List.getElem_take, List.getElem_drop, Nat.sub_zero]
    using hchange

end Contextless

/-! ### Lines without a line feed -/

section Flagged

variable {script : List (Edit Line)} {context : Nat}

/-- Behind an edit about a line of one side without its line feed, no edit is about a line of that
side. -/
theorem flagged_pairwise {side : Edit Line → Option Line} {data : Bytes}
    (h : script.filterMap side = Line.split data) :
    script.Pairwise fun e f => ∀ line, side e = some line → line.terminated = false →
      side f = none := by
  have hlines := Line.pairwise_terminated data
  rw [← h, List.pairwise_filterMap] at hlines
  refine hlines.imp ?_
  intro e f hpair line hline hunterminated
  cases hside : side f with
  | none => rfl
  | some line' =>
      have hterminated := hpair line hline line' hside
      rw [hunterminated] at hterminated
      cases hterminated

/-- Only insertions follow an old line without its line feed. -/
theorem flagged_old {old : Bytes} (h : Edit.olds script = Line.split old) :
    (script.map DiffLine.ofEdit).Pairwise fun line line' =>
      line.missingNewline = true → line.kind ≠ .added → line'.kind = .added := by
  rw [List.pairwise_map]
  refine (flagged_pairwise h).imp ?_
  intro e f hpair hmissing hkind
  cases e with
  | insert line => exact absurd rfl hkind
  | equal line | delete line =>
      have hnone := hpair line rfl (by simpa [DiffLine.ofEdit] using hmissing)
      cases f with
      | insert line' => rfl
      | equal line' | delete line' => cases hnone

/-- No line is kept behind a line without its line feed. -/
theorem flagged_kept {old new : Bytes} (hold : Edit.olds script = Line.split old)
    (hnew : Edit.news script = Line.split new) :
    script.Pairwise fun e f => (DiffLine.ofEdit e).missingNewline = true → f.isChange = true := by
  refine ((flagged_pairwise hold).and (flagged_pairwise hnew)).imp ?_
  rintro e f ⟨hpairOld, hpairNew⟩ hmissing
  cases f with
  | delete line' | insert line' => rfl
  | equal line' =>
      cases e with
      | equal line | delete line =>
          cases hpairOld line rfl (by simpa [DiffLine.ofEdit] using hmissing)
      | insert line => cases hpairNew line rfl (by simpa [DiffLine.ofEdit] using hmissing)

/-- Between two windows a line is kept, so a line without its line feed is shown in the last one. -/
theorem last_of_flagged {old new : Bytes} (hold : Edit.olds script = Line.split old)
    (hnew : Edit.news script = Line.split new) {k : Nat} {v : Window} {e : Edit Line}
    (hv : (windows script context)[k]? = some v) (he : e ∈ v.edits script)
    (hmissing : (DiffLine.ofEdit e).missingNewline = true) :
    k + 1 = (windows script context).length := by
  by_contra hne
  obtain ⟨hk, -⟩ := List.getElem?_eq_some_iff.mp hv
  have hlt : k + 1 < (windows script context).length := by omega
  -- If there were a next window, a kept line would be left out between the two. The flagged line is
  -- before it, and behind a flagged line nothing is kept.
  obtain ⟨place, line, hplace, -, hkept⟩ := exists_left_out hv (List.getElem?_eq_getElem hlt)
  obtain ⟨hlength, hline⟩ := List.getElem?_eq_some_iff.mp hkept
  obtain ⟨i, hi, rfl⟩ := List.getElem_of_mem he
  have hbounds := window_bounds hv
  rw [Window.length_edits hbounds.2] at hi
  have hpair := List.pairwise_iff_getElem.mp (flagged_kept hold hnew) (v.start + i) place
    (by omega) hlength (by omega)
  simp only [Window.edits, List.getElem_take, List.getElem_drop] at hmissing
  have hchange := hpair hmissing
  rw [hline] at hchange
  cases hchange

end Flagged

/-! ### Diffs -/

/-- How blocks of changes stand in a script, and what its hunks show of them. -/
structure Blocks (script : List (Edit Line)) (hunks : (context : Nat) → List Hunk) : Prop where
  /-- No insertion is directly followed by a deletion. -/
  order : ∀ before a b after, script ≠ before ++ .insert a :: .delete b :: after
  /-- Every run of changes is a run of deletions and then one of insertions. -/
  blocks : ∀ before block after, script = before ++ block ++ after →
    (∀ e ∈ block, e.isChange = true) →
    ∃ removed added : List Line, block = removed.map .delete ++ added.map .insert
  /-- Without context every hunk is a run of removed lines and then one of added lines. -/
  contextless : ∀ h ∈ hunks 0, ∃ removed added : List DiffLine, h.lines = removed ++ added ∧
    (∀ line ∈ removed, line.kind = .removed) ∧ ∀ line ∈ added, line.kind = .added
  /-- Only added lines follow an old line without its line feed. -/
  behind : ∀ context, ∀ h ∈ hunks context, ∀ before line after, h.lines = before ++ line :: after →
    line.missingNewline = true → line.kind ≠ .added → ∀ line' ∈ after, line'.kind = .added
  /-- A line without its line feed is shown in the last hunk. -/
  last : ∀ (context k : Nat) (h : Hunk), (hunks context)[k]? = some h →
    ∀ line ∈ h.lines, line.missingNewline = true → k + 1 = (hunks context).length

/-- A script whose deletions come first, and whose sides are the lines of two byte strings. -/
theorem blocks_ofScript {script : List (Edit Line)} {old new : Bytes}
    (hfirst : Edit.DeletesFirst script) (hold : Edit.olds script = Line.split old)
    (hnew : Edit.news script = Line.split new) : Blocks script (Hunk.ofScript script) where
  order := by
    intro before a b after hscript
    exact List.isChain_iff_forall_rel_of_append_cons_cons.mp hfirst hscript
  blocks := by
    intro before block after hscript hblock
    exact Edit.DeletesFirst.exists_runs (hfirst.part ⟨before, after, hscript.symm⟩) hblock
  contextless := by
    intro h hh
    -- Without context a window holds changes only, so all of it is one block of the script.
    obtain ⟨k, hk⟩ := List.mem_iff_getElem?.mp hh
    obtain ⟨v, hv, rfl⟩ := exists_window_of_hunk hk
    have hbounds := window_bounds hv
    have hinfix : v.edits script <:+: script :=
      (List.take_prefix _ _).isInfix.trans (List.drop_suffix _ _).isInfix
    obtain ⟨removed, added, hblock⟩ := Edit.DeletesFirst.exists_runs (hfirst.part hinfix)
      (isChange_of_contextless (List.mem_of_getElem? hv))
    rw [NumberedScript.hunk_eq hbounds.1.le hbounds.2]
    refine ⟨(removed.map .delete).map .ofEdit, (added.map .insert).map .ofEdit, ?_, ?_, ?_⟩
    · simp only [hblock, List.map_append]
    · exact List.forall_mem_map.mpr (List.forall_mem_map.mpr fun _ _ => rfl)
    · exact List.forall_mem_map.mpr (List.forall_mem_map.mpr fun _ _ => rfl)
  behind := by
    intro context h hh before line after hlines hmissing hkind
    obtain ⟨k, hk⟩ := List.mem_iff_getElem?.mp hh
    obtain ⟨v, hv, rfl⟩ := exists_window_of_hunk hk
    have hbounds := window_bounds hv
    have hsub : (v.edits script).Sublist script :=
      (List.take_sublist _ _).trans (List.drop_sublist _ _)
    have hpairs := (flagged_old hold).sublist (hsub.map DiffLine.ofEdit)
    rw [NumberedScript.hunk_eq hbounds.1.le hbounds.2] at hlines
    simp only at hlines
    rw [hlines, List.pairwise_append] at hpairs
    intro line' hline'
    exact List.rel_of_pairwise_cons hpairs.2.1 hline' hmissing hkind
  last := by
    intro context k h hh line hline hmissing
    obtain ⟨v, hv, rfl⟩ := exists_window_of_hunk hh
    have hbounds := window_bounds hv
    rw [NumberedScript.hunk_eq hbounds.1.le hbounds.2] at hline
    obtain ⟨e, he, rfl⟩ := List.mem_map.mp hline
    rw [Hunk.ofScript, List.length_map]
    exact last_of_flagged hold hnew hv he hmissing

/-- **Removals stand before additions.** In every diff, whether its middle is aligned or replaced, a
block of changes deletes first and inserts then; without context a hunk shows just that. A line
without its line feed is shown in the last hunk, and behind an old one only added lines are. -/
theorem diff_blocks (old new : Bytes) :
    Blocks (Script.ofLines (Line.split old) (Line.split new)) (diff old new) :=
  blocks_ofScript (Script.deletesFirst_ofLines _ _) (Script.olds_ofLines _ _)
    (Script.news_ofLines _ _)

end TwinRun
