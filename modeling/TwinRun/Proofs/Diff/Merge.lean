import Mathlib.Data.List.TakeWhile
import TwinRun.Diff.Align
import TwinRun.Proofs.Diff.CommonSubsequence

/-!
Merging two lists along a common subsequence.

The invariant of the passes is `State.Embedded`: what is left of the common subsequence is still
one of what is left of either side. It gives that every pass takes something
(`Embedded.progresses`), so the blocks are never cut short, and that the blocks of a whole merge
spell out both sides (`olds_blocks`, `news_blocks`).

`blocks_map` says that items may be renamed before or after the merge.
-/

namespace TwinRun.Merge

variable {α β : Type}

def edits (bs : List (Chunk (List α))) : List (Edit α) := bs.flatMap Align.editsOfBlock

@[simp] theorem edits_nil : edits ([] : List (Chunk (List α))) = [] := rfl

@[simp] theorem edits_cons (b : Chunk (List α)) (bs : List (Chunk (List α))) :
    edits (b :: bs) = Align.editsOfBlock b ++ edits bs := rfl

@[simp] theorem edits_append (bs cs : List (Chunk (List α))) :
    edits (bs ++ cs) = edits bs ++ edits cs := List.flatMap_append

/-- An empty block has no edits. -/
theorem edits_filter_nonempty (bs : List (Chunk (List α))) :
    edits (bs.filter fun b => !b.content.isEmpty) = edits bs := by
  induction bs with
  | nil => rfl
  | cons b bs ih =>
      by_cases hb : b.content = []
      · have hedits : Align.editsOfBlock b = [] := by
          cases b <;> simp_all [Chunk.content, Align.editsOfBlock]
        rw [List.filter_cons_of_neg (by simp [hb]), ih, edits_cons, hedits, List.nil_append]
      · rw [List.filter_cons_of_pos (by simp [hb]), edits_cons, edits_cons, ih]

/-- Every edit takes an item from one of the sides. -/
theorem length_olds_add_length_news_pos {script : List (Edit α)} (h : script ≠ []) :
    0 < (Edit.olds script).length + (Edit.news script).length := by
  cases script with
  | nil => exact absurd rfl h
  | cons e script =>
      cases e with
      | equal item => exact Nat.add_pos_left (Nat.succ_pos _) _
      | delete item => exact Nat.add_pos_left (Nat.succ_pos _) _
      | insert item => exact Nat.add_pos_right _ (Nat.succ_pos _)

/-- Dropping as many items as a condition takes leaves what the condition leaves. -/
theorem drop_length_takeWhile (p : α → Bool) (l : List α) :
    l.drop (l.takeWhile p).length = l.dropWhile p := by
  induction l with
  | nil => rfl
  | cons a l ih =>
      by_cases ha : p a = true
      · rw [List.takeWhile_cons_of_pos ha, List.dropWhile_cons_of_pos ha, List.length_cons,
          List.drop_succ_cons, ih]
      · rw [List.takeWhile_cons_of_neg ha, List.dropWhile_cons_of_neg ha, List.length_nil,
          List.drop_zero]

/-- Nothing is left of either side where no item remains. -/
theorem State.eq_nil_of_remaining_eq_zero {s : State α} (h : s.remaining = 0) :
    s.old = [] ∧ s.new = [] := by
  unfold State.remaining at h
  exact ⟨List.length_eq_zero_iff.mp (by omega), List.length_eq_zero_iff.mp (by omega)⟩

/-- All three lists with their items renamed. -/
def State.map (f : α → β) (s : State α) : State β :=
  ⟨s.old.map f, s.new.map f, s.common.map f⟩

@[simp] theorem State.map_old (f : α → β) (s : State α) : (s.map f).old = s.old.map f := rfl

@[simp] theorem State.map_new (f : α → β) (s : State α) : (s.map f).new = s.new.map f := rfl

/-- Renaming leaves as many items to be taken. -/
@[simp] theorem State.remaining_map (f : α → β) (s : State α) :
    (s.map f).remaining = s.remaining := by
  simp [State.remaining]

/-- No other item of a side takes the name of a common one. -/
def State.Distinguishes (f : α → β) (s : State α) : Prop :=
  ∀ c ∈ s.common, ∀ a, a ∈ s.old ∨ a ∈ s.new → f a = f c → a = c

theorem State.Distinguishes.mono {f : α → β} {s t : State α} (h : s.Distinguishes f)
    (hold : t.old ⊆ s.old) (hnew : t.new ⊆ s.new) (hcommon : t.common ⊆ s.common) :
    t.Distinguishes f := fun c hc a ha =>
  h c (hcommon hc) a (ha.imp (fun h => hold h) (fun h => hnew h))

variable [DecidableEq α]

/-- What is left of the common subsequence is one of what is left of either side. -/
structure State.Embedded (s : State α) : Prop where
  old : s.common.Sublist s.old
  new : s.common.Sublist s.new

/-! ### One pass -/

def State.SharesHead (s : State α) : Prop :=
  ∃ c, s.old.head? = some c ∧ s.new.head? = some c ∧ s.common.head? = some c

/-- Taking shared items cuts one prefix off all three lists, as long as possible. -/
theorem takeSame_spec (taken : List α) (s : State α) :
    ∃ p, (takeSame taken s).1 = taken.reverse ++ p ∧
      s.old = p ++ (takeSame taken s).2.old ∧ s.new = p ++ (takeSame taken s).2.new ∧
      s.common = p ++ (takeSame taken s).2.common ∧ ¬ (takeSame taken s).2.SharesHead := by
  fun_induction takeSame taken s with
  | case1 taken o old n new c common heq ih =>
      obtain ⟨p, htaken, hold, hnew, hcommon, hhead⟩ := ih
      obtain ⟨rfl, rfl⟩ := heq
      refine ⟨n :: p, ?_, congrArg _ hold, congrArg _ hnew, congrArg _ hcommon, hhead⟩
      rw [htaken, List.reverse_cons, List.append_assoc, List.singleton_append]
  | case2 taken o old n new c common hne =>
      refine ⟨[], (List.append_nil _).symm, rfl, rfl, rfl, ?_⟩
      rintro ⟨x, ho, hn, hc⟩
      simp only [List.head?_cons, Option.some.injEq] at ho hn hc
      exact hne ⟨ho.trans hc.symm, hn.trans hc.symm⟩
  | case3 taken s hne =>
      refine ⟨[], (List.append_nil _).symm, rfl, rfl, rfl, ?_⟩
      rintro ⟨x, ho, hn, hc⟩
      obtain ⟨old, new, common⟩ := s
      obtain ⟨old, rfl⟩ := List.head?_eq_some_iff.mp ho
      obtain ⟨new, rfl⟩ := List.head?_eq_some_iff.mp hn
      obtain ⟨common, rfl⟩ := List.head?_eq_some_iff.mp hc
      exact hne _ _ _ _ _ _ rfl

/-- The state after the shared items keeps items apart that were kept apart before. -/
theorem State.Distinguishes.takeSame {f : α → β} {s : State α} (h : s.Distinguishes f) :
    (Merge.takeSame [] s).2.Distinguishes f := by
  obtain ⟨same, -, hold, hnew, hcommon, -⟩ := takeSame_spec [] s
  exact h.mono (by rw [hold]; exact List.subset_append_right _ _)
    (by rw [hnew]; exact List.subset_append_right _ _)
    (by rw [hcommon]; exact List.subset_append_right _ _)

/-- Passing over items that are not the next common one loses no common item. -/
theorem State.sublist_dropWhile_differs (s : State α) {l : List α} (h : s.common.Sublist l) :
    s.common.Sublist (l.dropWhile s.differs) := by
  induction l with
  | nil => exact h
  | cons a l ih =>
      by_cases ha : s.differs a = true
      · rw [List.dropWhile_cons_of_pos ha]
        cases hc : s.common with
        | nil => exact List.nil_sublist _
        | cons c common =>
            rw [hc] at h
            -- The item passed over is not the next common one, so the common items lie behind it.
            have hca : c ≠ a := by simpa [State.differs, hc] using ha
            cases h with
            | cons _ h => exact hc ▸ ih (hc ▸ h)
            | cons_cons _ h => exact absurd rfl hca
      · rw [List.dropWhile_cons_of_neg ha]
        exact h

/-- One pass in terms of what is left when all shared items are taken. -/
theorem pass_eq (s : State α) :
    pass s = ([Chunk.same (takeSame [] s).1,
        .removed ((takeSame [] s).2.old.takeWhile (takeSame [] s).2.differs),
        .added ((takeSame [] s).2.new.takeWhile (takeSame [] s).2.differs)].filter
          (fun b => !b.content.isEmpty),
      { (takeSame [] s).2 with
        old := (takeSame [] s).2.old.dropWhile (takeSame [] s).2.differs
        new := (takeSame [] s).2.new.dropWhile (takeSame [] s).2.differs }) := by
  rw [← drop_length_takeWhile, ← drop_length_takeWhile]
  rfl

/-- The state after a pass keeps items apart that were kept apart before. -/
theorem State.Distinguishes.pass {f : α → β} {s : State α} (h : s.Distinguishes f) :
    (Merge.pass s).2.Distinguishes f := by
  rw [pass_eq]
  exact h.takeSame.mono (List.dropWhile_suffix _).subset (List.dropWhile_suffix _).subset
    (List.Subset.refl _)

/-- The edits of one pass. -/
theorem edits_pass (s : State α) :
    edits (pass s).1 = (takeSame [] s).1.map .equal
      ++ ((takeSame [] s).2.old.takeWhile (takeSame [] s).2.differs).map .delete
      ++ ((takeSame [] s).2.new.takeWhile (takeSame [] s).2.differs).map .insert := by
  rw [pass_eq, edits_filter_nonempty]
  simp [Align.editsOfBlock]

/-- A pass moves the front of the old side into its edits. -/
theorem olds_pass (s : State α) : Edit.olds (edits (pass s).1) ++ (pass s).2.old = s.old := by
  obtain ⟨same, htaken, hold, -, -, -⟩ := takeSame_spec [] s
  rw [edits_pass, pass_eq, htaken]
  simp [← hold]

/-- A pass moves the front of the new side into its edits. -/
theorem news_pass (s : State α) : Edit.news (edits (pass s).1) ++ (pass s).2.new = s.new := by
  obtain ⟨same, htaken, -, hnew, -, -⟩ := takeSame_spec [] s
  rw [edits_pass, pass_eq, htaken]
  simp [← hnew]

/-- The invariant holds after a pass. -/
theorem State.Embedded.pass {s : State α} (h : s.Embedded) : (Merge.pass s).2.Embedded := by
  obtain ⟨same, -, hold, hnew, hcommon, -⟩ := takeSame_spec [] s
  have hold' : (takeSame [] s).2.common.Sublist (takeSame [] s).2.old := by
    have := h.old
    rwa [hold, hcommon, List.append_sublist_append_left] at this
  have hnew' : (takeSame [] s).2.common.Sublist (takeSame [] s).2.new := by
    have := h.new
    rwa [hnew, hcommon, List.append_sublist_append_left] at this
  rw [pass_eq]
  exact ⟨State.sublist_dropWhile_differs _ hold', State.sublist_dropWhile_differs _ hnew'⟩

/-- An item that a pass does not pass over is the next common one. -/
theorem State.eq_of_not_differs {s : State α} {a c : α} (hc : s.common.head? = some c)
    (ha : ¬ s.differs a = true) : a = c := by
  have hsome : some c = some a := by simpa [State.differs, hc] using ha
  exact (Option.some.inj hsome).symm

/-- Where nothing is passed over on a side, the side starts with the next common item. -/
theorem State.head_eq_of_takeWhile_eq_nil {s : State α} {c : α} {common l : List α}
    (hc : s.common = c :: common) (h : s.common.Sublist l)
    (hnil : l.takeWhile s.differs = []) : l.head? = some c := by
  cases l with
  | nil =>
      rw [hc] at h
      cases h
  | cons a l =>
      by_cases ha : s.differs a = true
      · rw [List.takeWhile_cons_of_pos ha] at hnil
        cases hnil
      · rw [List.head?_cons, State.eq_of_not_differs (by rw [hc]; rfl) ha]

/-- A pass over something has edits. Without any, no item would be shared or passed over. Then
all three lists would start with the next common item, which is shared; or, without a common
item, nothing would be left. -/
theorem State.Embedded.edits_pass_ne_nil {s : State α} (h : s.Embedded)
    (hremaining : s.remaining ≠ 0) : edits (Merge.pass s).1 ≠ [] := by
  intro hnil
  rw [edits_pass, List.append_eq_nil_iff, List.append_eq_nil_iff] at hnil
  obtain ⟨⟨hsame, hremoved⟩, hadded⟩ := hnil
  rw [List.map_eq_nil_iff] at hsame hremoved hadded
  obtain ⟨same, htaken, hold, hnew, hcommon, hhead⟩ := takeSame_spec [] s
  obtain rfl : same = [] := by simpa [hsame] using htaken.symm
  simp only [List.nil_append] at hold hnew hcommon
  rw [← hold] at hremoved
  rw [← hnew] at hadded
  cases hc : (takeSame [] s).2.common with
  | nil =>
      have hall : ∀ l : List α, l.takeWhile (takeSame [] s).2.differs = l := fun l =>
        List.takeWhile_eq_self_iff.mpr fun a _ => by simp [State.differs, hc]
      rw [hall] at hremoved hadded
      exact hremaining (by simp [State.remaining, hremoved, hadded])
  | cons c common =>
      refine hhead ⟨c, ?_, ?_, by rw [hc]; rfl⟩
      · rw [← hold]
        exact State.head_eq_of_takeWhile_eq_nil hc (hcommon ▸ h.old) hremoved
      · rw [← hnew]
        exact State.head_eq_of_takeWhile_eq_nil hc (hcommon ▸ h.new) hadded

/-- Every pass over something takes an item. -/
theorem State.Embedded.progresses {s : State α} (h : s.Embedded) (hremaining : s.remaining ≠ 0) :
    Progresses s := by
  have hpos := length_olds_add_length_news_pos (h.edits_pass_ne_nil hremaining)
  have hold := congrArg List.length (olds_pass s)
  have hnew := congrArg List.length (news_pass s)
  rw [List.length_append] at hold hnew
  unfold Progresses State.remaining
  omega

/-! ### All passes -/

/-- The blocks of a merge spell out the old side. -/
theorem olds_blocks {s : State α} (h : s.Embedded) : Edit.olds (edits (blocks s)) = s.old := by
  fun_induction blocks s with
  | case1 s hzero => exact (State.eq_nil_of_remaining_eq_zero hzero).1.symm
  | case2 s hremaining hprogress ih =>
      rw [edits_append, Edit.olds_append, ih h.pass, olds_pass]
  | case3 s hremaining hstuck => exact absurd (h.progresses hremaining) hstuck

/-- The blocks of a merge spell out the new side. -/
theorem news_blocks {s : State α} (h : s.Embedded) : Edit.news (edits (blocks s)) = s.new := by
  fun_induction blocks s with
  | case1 s hzero => exact (State.eq_nil_of_remaining_eq_zero hzero).2.symm
  | case2 s hremaining hprogress ih =>
      rw [edits_append, Edit.news_append, ih h.pass, news_pass]
  | case3 s hremaining hstuck => exact absurd (h.progresses hremaining) hstuck

/-- No block of a merge is empty. -/
theorem content_ne_nil_of_mem_blocks {s : State α} {b : Chunk (List α)} (h : b ∈ blocks s) :
    b.content ≠ [] := by
  fun_induction blocks s with
  | case1 s hzero => cases h
  | case2 s hremaining hprogress ih =>
      rcases List.mem_append.mp h with hpass | hrest
      · rw [pass_eq] at hpass
        have hb := (List.mem_filter.mp hpass).2
        intro hnil
        rw [hnil] at hb
        cases hb
      · exact ih hrest
  | case3 s hremaining hstuck => cases h

/-! ### Renaming the items -/

variable [DecidableEq β]

/-- Taking shared items depends only on which items are equal. -/
theorem takeSame_map {f : α → β} (taken : List α) {s : State α} (h : s.Distinguishes f) :
    takeSame (taken.map f) (s.map f)
      = ((takeSame taken s).1.map f, (takeSame taken s).2.map f) := by
  fun_induction takeSame taken s with
  | case1 taken o old n new c common heq ih =>
      have hrest := h.mono (t := ⟨old, new, common⟩) (List.subset_cons_self _ _)
        (List.subset_cons_self _ _) (List.subset_cons_self _ _)
      rw [← ih hrest]
      simp [State.map, takeSame, heq]
  | case2 taken o old n new c common hne =>
      have hfne : ¬ (f o = f c ∧ f n = f c) := fun heq =>
        hne ⟨h c List.mem_cons_self o (.inl List.mem_cons_self) heq.1,
          h c List.mem_cons_self n (.inr List.mem_cons_self) heq.2⟩
      simp [State.map, takeSame, hfne]
  | case3 taken s hne =>
      obtain ⟨old, new, common⟩ := s
      cases old <;> cases new <;> cases common <;>
        first
        | exact absurd rfl (hne _ _ _ _ _ _)
        | simp [State.map, takeSame]

/-- What a side starts with before the next common item depends only on which items are
equal. -/
theorem takeWhile_differs_map {f : α → β} {s : State α} {l : List α}
    (h : ∀ c ∈ s.common, ∀ a ∈ l, f a = f c → a = c) :
    (l.map f).takeWhile (s.map f).differs = (l.takeWhile s.differs).map f := by
  induction l with
  | nil => rfl
  | cons a l ih =>
      have ih := ih fun c hc a ha => h c hc a (List.mem_cons_of_mem _ ha)
      have hdiffers : (s.map f).differs (f a) = s.differs a := by
        cases hc : s.common with
        | nil =>
            simp only [State.differs, State.map, hc, List.map_nil, List.head?_nil]
            rfl
        | cons c common =>
            have hiff : f c = f a ↔ c = a :=
              ⟨fun heq => (h c (by simp [hc]) a List.mem_cons_self heq.symm).symm,
                fun heq => by rw [heq]⟩
            simp [State.differs, State.map, hc, hiff, bne]
      by_cases ha : s.differs a = true
      · rw [List.map_cons, List.takeWhile_cons_of_pos (hdiffers.trans ha),
          List.takeWhile_cons_of_pos ha, ih, List.map_cons]
      · rw [List.map_cons, List.takeWhile_cons_of_neg (hdiffers ▸ ha),
          List.takeWhile_cons_of_neg ha, List.map_nil]

/-- A pass depends only on which items are equal. -/
theorem pass_map {f : α → β} {s : State α} (h : s.Distinguishes f) :
    pass (s.map f) = ((pass s).1.map (Chunk.map (List.map f)), (pass s).2.map f) := by
  have hsame := takeSame_map [] h
  have hold := takeWhile_differs_map (l := (takeSame [] s).2.old)
    fun c hc a ha => h.takeSame c hc a (.inl ha)
  have hnew := takeWhile_differs_map (l := (takeSame [] s).2.new)
    fun c hc a ha => h.takeSame c hc a (.inr ha)
  have hempty : (fun b : Chunk (List β) => !b.content.isEmpty) ∘ Chunk.map (List.map f)
      = fun b => !b.content.isEmpty := by
    funext b
    cases b <;> simp [Chunk.map, Chunk.content]
  rw [List.map_nil] at hsame
  unfold pass
  simp only [hsame, State.map_old, State.map_new, hold, hnew, List.length_map]
  refine Prod.ext ?_ ?_
  · rw [← hempty, ← List.filter_map]
    rfl
  · simp only [State.map, List.map_drop]

/-- Whether a pass takes anything depends only on which items are equal. -/
theorem progresses_map {f : α → β} {s : State α} (h : s.Distinguishes f) :
    Progresses (s.map f) ↔ Progresses s := by
  unfold Progresses
  rw [pass_map h, State.remaining_map, State.remaining_map]

/-- A merge depends only on which items are equal. -/
theorem blocks_map {f : α → β} {s : State α} (h : s.Distinguishes f) :
    blocks (s.map f) = (blocks s).map (Chunk.map (List.map f)) := by
  fun_induction blocks s with
  | case1 s hzero => rw [blocks, if_pos (by rw [State.remaining_map, hzero]), List.map_nil]
  | case2 s hremaining hprogress ih =>
      rw [blocks, if_neg (by rw [State.remaining_map]; exact hremaining),
        dif_pos ((progresses_map h).mpr hprogress), pass_map h, ih h.pass, List.map_append]
  | case3 s hremaining hstuck =>
      rw [blocks, if_neg (by rw [State.remaining_map]; exact hremaining),
        dif_neg (mt (progresses_map h).mp hstuck), List.map_nil]

end TwinRun.Merge
