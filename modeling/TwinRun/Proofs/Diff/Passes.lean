import TwinRun.Proofs.Diff.Minimal

/-!
The passes of a merge.

A merge makes pass after pass as long as anything is left of either side. Whether a pass takes
anything is not asked: that there is an end to the passes is up to the common subsequence.

* `Merge.Passes`: passes one after the other, and the blocks they take.
* `Merge.Passes.embedded_iff`: passes keep the invariant, and they do not bring it about either.
* `Merge.State.Embedded.completes`: with the invariant, each pass takes an item, and in the end
  nothing is left and all that is in common has been kept.
* `Merge.not_embedded_iff`: without it, the passes never end, or they end too early.
* `Align.embedded_mergeStart`: the merge of two texts starts with the invariant.
* `Align.aligned_texts_iff`: its blocks spell out the texts, unless an empty piece stands alone.
* `Align.merge_names`: no name is empty, so the merge of names makes progress with each pass and
  keeps all common names.
-/

namespace TwinRun.Merge

variable {α : Type} [DecidableEq α]

/-! ### Passes one after the other -/

/-- From `s`, `n` passes take the blocks `bs` and leave `t`. There is another pass as long as anything
is left of either side, even if it takes nothing. -/
inductive Passes : (s : State α) → (n : Nat) → (bs : List (Chunk (List α))) → (t : State α) → Prop
  | start (s : State α) : Passes s 0 [] s
  | next {s t : State α} {n : Nat} {bs : List (Chunk (List α))} (hremaining : s.remaining ≠ 0)
      (h : Passes (pass s).2 n bs t) : Passes s (n + 1) ((pass s).1 ++ bs) t

def Endless (s : State α) : Prop := ∀ n, ∃ bs t, Passes s n bs t

/-- The passes end before they have kept all that is in common. -/
def EndsEarly (s : State α) : Prop :=
  ∃ n bs t, Passes s n bs t ∧ t.remaining = 0 ∧ Edit.kept (edits bs) ≠ s.common

/-- The passes take an item each, use up all three lists and keep all that is in common. -/
structure Completes (s : State α) : Prop where
  /-- Before each pass, what is left of the common subsequence is one of what is left of either
  side, -/
  embedded : ∀ n bs t, Passes s n bs t → t.common.Sublist t.old ∧ t.common.Sublist t.new
  /-- so the pass takes an item. -/
  takes : ∀ n bs t, Passes s n bs t → t.remaining ≠ 0 → (pass t).2.remaining < t.remaining
  /-- There are no more passes than items, -/
  bounded : ∀ n bs t, Passes s n bs t → n ≤ s.remaining
  /-- the last one leaves nothing, -/
  ends : ∃ n, Passes s n (blocks s) ⟨[], [], []⟩
  /-- and what their blocks keep is all that is in common. -/
  kept : Edit.kept (edits (blocks s)) = s.common

variable {s t : State α} {n : Nat} {bs : List (Chunk (List α))}

/-- A pass neither breaks the invariant nor brings it about: what the pass keeps was in common, and
stood in front of either side. -/
theorem embedded_pass_iff : (pass s).2.Embedded ↔ s.Embedded := by
  refine ⟨fun h => ⟨?_, ?_⟩, State.Embedded.pass⟩
  · rw [← kept_pass s, ← olds_pass s]
    exact (Edit.kept_sublist_olds _).append h.old
  · rw [← kept_pass s, ← news_pass s]
    exact (Edit.kept_sublist_news _).append h.new

theorem Passes.embedded_iff (h : Passes s n bs t) : t.Embedded ↔ s.Embedded := by
  induction h with
  | start => exact Iff.rfl
  | next _ _ ih => exact ih.trans embedded_pass_iff

/-- What passes have kept and what they leave of the common subsequence make it up. -/
theorem Passes.kept_append (h : Passes s n bs t) : Edit.kept (edits bs) ++ t.common = s.common := by
  induction h with
  | start => rfl
  | next _ _ ih => rw [edits_append, Edit.kept_append, List.append_assoc, ih, kept_pass]

/-- With the invariant, each pass leaves one item less at least. -/
theorem Passes.add_remaining_le (h : Passes s n bs t) (hs : s.Embedded) :
    n + t.remaining ≤ s.remaining := by
  induction h with
  | start => exact Nat.le_of_eq (Nat.zero_add _)
  | @next s _ _ _ hremaining _ ih =>
      have hrest := ih hs.pass
      have hpass : (pass s).2.remaining < s.remaining := hs.progresses hremaining
      omega

/-- Either there are `n` passes, or all passes there are have been made before. -/
theorem exists_passes (n : Nat) (s : State α) :
    (∃ bs t, Passes s n bs t) ∨ ∃ m bs t, Passes s m bs t ∧ t.remaining = 0 := by
  induction n generalizing s with
  | zero => exact .inl ⟨[], s, .start s⟩
  | succ n ih =>
      by_cases hremaining : s.remaining = 0
      · exact .inr ⟨0, [], s, .start s, hremaining⟩
      · rcases ih (pass s).2 with ⟨bs, t, h⟩ | ⟨m, bs, t, h, hzero⟩
        · exact .inl ⟨_, t, .next hremaining h⟩
        · exact .inr ⟨m + 1, _, t, .next hremaining h, hzero⟩

/-! ### With and without the invariant -/

omit [DecidableEq α] in
/-- The empty list is a common subsequence of any two sides. -/
theorem State.embedded_of_eq_nil (h : s.common = []) : s.Embedded :=
  ⟨h ▸ List.nil_sublist s.old, h ▸ List.nil_sublist s.new⟩

omit [DecidableEq α] in
/-- With the invariant, nothing is left in common where nothing is left of the sides. -/
theorem State.Embedded.eq_nil (h : s.Embedded) (hzero : s.remaining = 0) : s = ⟨[], [], []⟩ := by
  obtain ⟨old, new, common⟩ := s
  obtain ⟨rfl, rfl⟩ := State.eq_nil_of_remaining_eq_zero hzero
  obtain rfl : common = [] := List.sublist_nil.mp h.old
  rfl

/-- The blocks of a merge are those of its passes. -/
theorem State.Embedded.passes_blocks (h : s.Embedded) :
    ∃ n, Passes s n (blocks s) ⟨[], [], []⟩ := by
  fun_induction blocks s with
  | case1 s hzero =>
      rw [h.eq_nil hzero]
      exact ⟨0, .start _⟩
  | case2 s hremaining hprogress ih =>
      obtain ⟨n, hpasses⟩ := ih h.pass
      exact ⟨n + 1, .next hremaining hpasses⟩
  | case3 s hremaining hstuck => exact absurd (h.progresses hremaining) hstuck

/-- Along a common subsequence of both sides a merge makes progress with each pass. -/
theorem State.Embedded.completes (h : s.Embedded) : Completes s where
  embedded _ _ _ hpasses :=
    have ht := hpasses.embedded_iff.mpr h
    ⟨ht.old, ht.new⟩
  takes _ _ _ hpasses hremaining := (hpasses.embedded_iff.mpr h).progresses hremaining
  bounded _ _ _ hpasses := Nat.le_of_add_right_le (hpasses.add_remaining_le h)
  ends := h.passes_blocks
  kept := kept_blocks h

/-- Only along a common subsequence of both sides do the passes end with all of it kept. -/
theorem not_embedded_iff : ¬ s.Embedded ↔ Endless s ∨ EndsEarly s := by
  constructor
  · -- Passes that end with all in common kept leave nothing of it, and so bring the invariant about.
    intro h
    by_contra hnot
    obtain ⟨hendless, hearly⟩ := not_or.mp hnot
    obtain ⟨n, hn⟩ := not_forall.mp hendless
    obtain ⟨m, bs, t, hpasses, hzero⟩ := (exists_passes n s).resolve_left hn
    have hkept : Edit.kept (edits bs) = s.common := by
      by_contra hkept
      exact hearly ⟨m, bs, t, hpasses, hzero, hkept⟩
    have hcommon : t.common = [] := by
      have happend := hpasses.kept_append
      rwa [hkept, List.append_right_eq_self] at happend
    exact h (hpasses.embedded_iff.mp (State.embedded_of_eq_nil hcommon))
  · rintro (hendless | ⟨n, bs, t, hpasses, hzero, hkept⟩) h
    · -- There would be one pass more than there are items.
      obtain ⟨bs, t, hpasses⟩ := hendless (s.remaining + 1)
      have hle := hpasses.add_remaining_le h
      omega
    · have hnil := (hpasses.embedded_iff.mpr h).eq_nil hzero
      have happend := hpasses.kept_append
      rw [hnil, List.append_nil] at happend
      exact hkept happend

omit [DecidableEq α] in
/-- What a block holds is an item of the old side or of the new one. -/
theorem mem_sides_of_mem_content {b : Chunk (List α)} {x : α} (hb : b ∈ bs) (hx : x ∈ b.content) :
    x ∈ Edit.olds (edits bs) ∨ x ∈ Edit.news (edits bs) := by
  obtain ⟨front, back, rfl⟩ := List.append_of_mem hb
  rw [edits_append, edits_cons, Edit.olds_append, Edit.olds_append, Edit.news_append,
    Edit.news_append]
  have hblock : x ∈ Edit.olds (Align.editsOfBlock b) ∨ x ∈ Edit.news (Align.editsOfBlock b) := by
    cases b with
    | same items => exact .inl (by rwa [Align.editsOfBlock, Edit.olds_map_equal])
    | removed items => exact .inl (by rwa [Align.editsOfBlock, Edit.olds_map_delete])
    | added items => exact .inr (by rwa [Align.editsOfBlock, Edit.news_map_insert])
  exact hblock.imp (fun h => List.mem_append_right _ (List.mem_append_left _ h))
    fun h => List.mem_append_right _ (List.mem_append_left _ h)

end TwinRun.Merge

namespace TwinRun.Align

/-! ### Pieces that may be empty -/

/-- Pieces of a text that are written out as a text of their own are still pieces of the text when
both are taken for lists. -/
theorem listedPieces_sublist {l : List (List Char)} {text : List Char}
    (h : l.Sublist (pieces text)) : (listedPieces (joinPieces l)).Sublist (listedPieces text) := by
  by_cases htext : text = []
  · subst htext
    rcases List.sublist_singleton.mp h with rfl | rfl <;> exact List.nil_sublist _
  · rw [listedPieces_eq_iff.mpr htext]
    by_cases hl : l = [[]]
    · rw [hl]
      exact List.nil_sublist _
    · have hnewline : ∀ piece ∈ l, '\n' ∉ piece := fun piece hpiece =>
        newline_not_mem_of_mem_pieces (h.subset hpiece)
      rwa [(listedPieces_joinPieces_iff hnewline).mpr hl]

/-! ### The merge of two texts -/

def mergeStart (old new : List Char) : Merge.State (List Char) :=
  ⟨listedPieces old, listedPieces new,
    listedPieces (joinPieces (Common.subsequence (pieces old) (pieces new)))⟩

theorem texts_eq_map_blocks (old new : List Char) :
    texts old new = (Merge.blocks (mergeStart old new)).map (Chunk.map joinPieces) := rfl

/-- The merge of two texts starts with its invariant, whatever their pieces are. -/
theorem embedded_mergeStart (old new : List Char) : (mergeStart old new).Embedded :=
  ⟨listedPieces_sublist (Common.subsequence_sublist_left _ _),
    listedPieces_sublist (Common.subsequence_sublist_right _ _)⟩

/-- Blocks of text that spell out two lists of pieces, and keep a third one. -/
structure Aligned (bs : List (Chunk (List Char))) (old new common : List (List Char)) : Prop where
  olds : Edit.olds (Merge.edits (bs.map (Chunk.map pieces))) = old
  news : Edit.news (Merge.edits (bs.map (Chunk.map pieces))) = new
  kept : Edit.kept (Merge.edits (bs.map (Chunk.map pieces))) = common

/-- The blocks of two texts are cut back into those of the merge. -/
theorem map_pieces_texts (old new : List Char) :
    (texts old new).map (Chunk.map pieces) = Merge.blocks (mergeStart old new) := by
  have hembedded := embedded_mergeStart old new
  have hblock : ∀ b ∈ Merge.blocks (mergeStart old new),
      Chunk.map pieces (Chunk.map joinPieces b) = b := by
    intro b hb
    have hnewline : ∀ piece ∈ b.content, '\n' ∉ piece := by
      intro piece hpiece
      have hsides := Merge.mem_sides_of_mem_content hb hpiece
      rw [Merge.olds_blocks hembedded, Merge.news_blocks hembedded] at hsides
      exact hsides.elim newline_not_mem_of_mem_listedPieces newline_not_mem_of_mem_listedPieces
    have hcontent := pieces_joinPieces (Merge.content_ne_nil_of_mem_blocks hb) hnewline
    cases b <;> exact congrArg _ hcontent
  rw [texts_eq_map_blocks, List.map_map]
  exact (List.map_congr_left hblock).trans (List.map_id _)

/-- The blocks of two texts spell out the texts, each taken for a list. -/
theorem aligned_texts (old new : List Char) :
    Aligned (texts old new) (mergeStart old new).old (mergeStart old new).new
      (mergeStart old new).common := by
  have hembedded := embedded_mergeStart old new
  constructor <;> rw [map_pieces_texts]
  · exact Merge.olds_blocks hembedded
  · exact Merge.news_blocks hembedded
  · exact Merge.kept_blocks hembedded

/-- The blocks of two texts spell out their pieces, and keep what is collected from them, unless an
empty piece stands alone in a text or among those collected. -/
theorem aligned_texts_iff {old new : List Char} :
    Aligned (texts old new) (pieces old) (pieces new)
        (Common.subsequence (pieces old) (pieces new)) ↔
      old ≠ [] ∧ new ≠ [] ∧ Common.subsequence (pieces old) (pieces new) ≠ [[]] := by
  have haligned := aligned_texts old new
  have hnewline : ∀ piece ∈ Common.subsequence (pieces old) (pieces new), '\n' ∉ piece :=
    fun piece hpiece =>
      newline_not_mem_of_mem_pieces ((Common.subsequence_sublist_left _ _).subset hpiece)
  rw [← listedPieces_eq_iff, ← listedPieces_eq_iff, ← listedPieces_joinPieces_iff hnewline]
  constructor
  · intro h
    exact ⟨haligned.olds.symm.trans h.olds, haligned.news.symm.trans h.news,
      haligned.kept.symm.trans h.kept⟩
  · rintro ⟨hold, hnew, hcommon⟩
    exact ⟨haligned.olds.trans hold, haligned.news.trans hnew, haligned.kept.trans hcommon⟩

/-! ### The merge of names -/

/-- The merge of two lists of pieces, made from their texts, makes progress with each pass and keeps
all that has been collected. -/
structure Merges (old new : List (List Char)) : Prop where
  /-- What is collected is a common subsequence of both lists, wherever the walk ends. -/
  common_old : (Common.subsequence old new).Sublist old
  common_new : (Common.subsequence old new).Sublist new
  /-- The merge starts with it and with both lists, -/
  start : mergeStart (joinPieces old) (joinPieces new) = ⟨old, new, Common.subsequence old new⟩
  /-- each pass makes progress, -/
  completes : Merge.Completes ⟨old, new, Common.subsequence old new⟩
  /-- and the blocks of text spell out both lists and keep all that has been collected. -/
  aligned : Aligned (texts (joinPieces old) (joinPieces new)) old new (Common.subsequence old new)

/-- Pieces that are not empty are merged as they should be. -/
theorem merges_of_ne_nil {old new : List (List Char)} (hold : old ≠ []) (hnew : new ≠ [])
    (hne : ∀ piece ∈ old ++ new, piece ≠ []) (h : ∀ piece ∈ old ++ new, '\n' ∉ piece) :
    Merges old new := by
  obtain ⟨holdNe, hnewNe⟩ := List.forall_mem_append.mp hne
  obtain ⟨holdLine, hnewLine⟩ := List.forall_mem_append.mp h
  have hsub := (Common.subsequence_sublist_left old new).subset
  -- Pieces that are not empty survive being joined and cut again, on both sides and in common.
  have hstart : mergeStart (joinPieces old) (joinPieces new)
      = ⟨old, new, Common.subsequence old new⟩ := by
    rw [mergeStart, pieces_joinPieces hold holdLine, pieces_joinPieces hnew hnewLine,
      listedPieces_joinPieces holdNe holdLine, listedPieces_joinPieces hnewNe hnewLine,
      listedPieces_joinPieces (fun piece hpiece => holdNe piece (hsub hpiece))
        fun piece hpiece => holdLine piece (hsub hpiece)]
  have haligned := aligned_texts (joinPieces old) (joinPieces new)
  rw [hstart] at haligned
  exact {
    common_old := Common.subsequence_sublist_left old new
    common_new := Common.subsequence_sublist_right old new
    start := hstart
    completes := (embedded_subsequence old new).completes
    aligned := haligned }

/-- **The merge of the names of two lists of lines always makes progress.** What is collected from
the names, wherever the walk ends, is a common subsequence of them; before each pass what is left of
it is one of what is left of either side, so that the pass takes a name; the passes end, no more
than there are lines, and all that has been collected is kept.

Neither can be given up. Along anything else than a common subsequence the passes never end, or they
end before all of it is kept; and texts with an empty piece are not aligned where it stands alone. -/
theorem merge_names {old new : List Line} (hold : old ≠ []) (hnew : new ≠ []) :
    let olds := (Numbering.names ∅ old).1
    let news := ((Numbering.names ∅ old).2.names new).1
    Merges olds news ∧ olds.length = old.length ∧ news.length = new.length ∧
      (∀ common, ¬ Merge.State.Embedded ⟨olds, news, common⟩ ↔
        Merge.Endless ⟨olds, news, common⟩ ∨ Merge.EndsEarly ⟨olds, news, common⟩) ∧
      ∀ oldText newText, Aligned (texts oldText newText) (pieces oldText) (pieces newText)
          (Common.subsequence (pieces oldText) (pieces newText)) ↔
        oldText ≠ [] ∧ newText ≠ [] ∧
          Common.subsequence (pieces oldText) (pieces newText) ≠ [[]] := by
  intro olds news
  have holds : olds = old.map (numbering old new).name := names_old old new
  have hnews : news = new.map (numbering old new).name := names_new old new
  have hnames : ∀ piece ∈ olds ++ news, piece ≠ [] ∧ '\n' ∉ piece := by
    rw [holds, hnews, ← List.map_append]
    exact List.forall_mem_map.mpr fun line _ =>
      ⟨(numbering old new).name_ne_nil line, (numbering old new).newline_not_mem_name line⟩
  refine ⟨merges_of_ne_nil ?_ ?_ (fun piece hpiece => (hnames piece hpiece).1)
      (fun piece hpiece => (hnames piece hpiece).2), ?_, ?_, fun common => Merge.not_embedded_iff,
    fun oldText newText => aligned_texts_iff⟩
  · rw [holds]
    exact mt List.map_eq_nil_iff.mp hold
  · rw [hnews]
    exact mt List.map_eq_nil_iff.mp hnew
  · rw [holds, List.length_map]
  · rw [hnews, List.length_map]

/-- The walk is cut short: it collects two names where three are in common. -/
theorem merge_names_cut :
    let line : UInt8 → Line := fun b => ⟨[b], true⟩
    let old := [110, 120, 112, 113, 119, 112, 109].map line
    let new := [120, 119, 112].map line
    let olds := (Numbering.names ∅ old).1
    let news := ((Numbering.names ∅ old).2.names new).1
    old ≠ [] ∧ new ≠ [] ∧ Common.Cut olds news olds.length news.length ∧ Merges olds news := by
  intro line old new olds news
  have holds : olds = old.map (numbering old new).name := names_old old new
  have hnews : news = new.map (numbering old new).name := names_new old new
  have hinj : ∀ a ∈ old, ∀ b ∈ new,
      (numbering old new).name a = (numbering old new).name b → a = b := fun a ha b hb =>
    (name_numbering_inj (List.mem_append_left new ha) (List.mem_append_right old hb)).mp
  have htwo : Common.subsequence old new = [119, 112].map line := by cbv
  have hthree : Common.longest olds news = news.length := by
    rw [holds, hnews]
    exact Common.longest_eq_length_right ((by decide : new.Sublist old).map _)
  have hcut : Common.Cut olds news olds.length news.length := by
    by_contra hcut
    have hlength := (Common.collects_subsequence olds news).2 hcut
    rw [List.take_length, List.take_length, hthree, holds, hnews, Common.subsequence_map hinj,
      htwo] at hlength
    simp only [List.length_map, List.length_cons, List.length_nil, new] at hlength
    omega
  exact ⟨by decide, by decide, hcut, (merge_names (by decide) (by decide)).1⟩

end TwinRun.Align
