import Mathlib.Logic.Relation
import TwinRun.Proofs.Config.Described

/-!
Documents that differ only in what has no meaning.

* `Rearranges`: the entries of one mapping come in another order, or an entry is added under a key
  without meaning. What has a meaning depends on where the mapping stands (`Level`).
* `Rearranges.valueAt?`: under each key with a meaning nothing changes but for a further
  rearrangement.
* `Config.described_of_rearranges`: a rearranged document describes the same configurations.
-/

namespace TwinRun

open Yaml (Node Value IsValue)

/-! ### Levels -/

/-- What a mapping is about. -/
inductive Level where
  | config
  | corpus
  | build
  | variant
  | stage
  /-- Nothing: all its keys are without meaning. -/
  | other
  deriving DecidableEq, Repr

namespace Level

/-- The keys with a meaning, and what a mapping is about that stands under them. -/
def fields : Level → List (String × Level)
  | config =>
      [("mode", other), ("scratch_dir", other), ("corpus", corpus), ("build", build),
        ("candidate", variant), ("reference", variant), ("context_lines", other)]
  | corpus => [("general", other), ("lexer", other), ("parser", other), ("extension", other)]
  | build => [("program", other), ("args", other), ("dir", other)]
  | variant => [("label", other), ("lexer", stage), ("parser", stage)]
  | stage => [("program", other), ("args", other)]
  | other => []

/-- What a mapping is about that stands under a key. -/
def under (l : Level) (key : String) : Level := (l.fields.lookup key).getD other

end Level

/-! ### Rearranging -/

/-- One change without meaning to a tree: in some mapping the entries come in another order, or
there is one more string under a key that is new and has no meaning there. -/
inductive Rearranges : Level → Node → Node → Prop
  | reorder {l : Level} {entries entries' : List (Node × Node)} (h : entries.Perm entries')
      (tag : Option String) : Rearranges l (.mapping entries tag) (.mapping entries' tag)
  | add {l : Level} {entries : List (Node × Node)} {tag : Option String} {key value : Node}
      {name : String} (hname : key.string? = some name) (hunknown : l.fields.lookup name = none)
      (hnew : (Node.mapping entries tag).valueAt? name = none) (hvalue : value.string?.isSome) :
      Rearranges l (.mapping entries tag) (.mapping ((key, value) :: entries) tag)
  | under {l : Level} {key v v' : Node} {name : String} (hname : key.string? = some name)
      (h : Rearranges (l.under name) v v') (before after : List (Node × Node))
      (tag : Option String) :
      Rearranges l (.mapping (before ++ (key, v) :: after) tag)
        (.mapping (before ++ (key, v') :: after) tag)
  | item {l : Level} {t t' : Node} (h : Rearranges .other t t') (before after : List Node)
      (tag : Option String) :
      Rearranges l (.sequence (before ++ t :: after) tag) (.sequence (before ++ t' :: after) tag)

/-! ### Entries -/

/-- Each item of a list has a partner if and only if some list holds the partners in order. -/
theorem exists_forall₂_iff {α β : Type} {R : α → β → Prop} {as : List α} :
    (∃ bs, List.Forall₂ R as bs) ↔ ∀ a ∈ as, ∃ b, R a b := by
  induction as with
  | nil => simp
  | cons a as ih =>
      rw [List.forall_mem_cons, ← ih]
      constructor
      · rintro ⟨_, _ | ⟨hb, hbs⟩⟩
        exact ⟨⟨_, hb⟩, _, hbs⟩
      · rintro ⟨⟨b, hb⟩, bs, hbs⟩
        exact ⟨b :: bs, .cons hb hbs⟩

namespace Yaml.Node

variable {t v : Node} {key : String}

theorem valueAt?_eq_none : t.valueAt? key = none ↔ ∀ e ∈ t.entries, e.1.text? ≠ some key := by
  simp [valueAt?]

/-- In a tree an entry is found by its key. -/
theorem Tree.valueAt?_eq_some (ht : t.Tree) :
    t.valueAt? key = some v ↔ ∃ e ∈ t.entries, e.1.text? = some key ∧ e.2 = v := by
  constructor
  · intro h
    obtain ⟨e, he, rfl⟩ := Option.map_eq_some_iff.mp h
    exact ⟨e, List.mem_of_find?_eq_some he, by simpa using List.find?_some he, rfl⟩
  · rintro ⟨e, he, hkey, rfl⟩
    obtain ⟨e', hfound⟩ : ∃ e', t.entries.find? (·.1.text? == some key) = some e' := by
      rw [← Option.isSome_iff_exists, List.find?_isSome]
      exact ⟨e, he, by simpa using hkey⟩
    have hkey' : e'.1.text? = some key := by simpa using List.find?_some hfound
    have hsame : e' = e := List.inj_on_of_nodup_map ht.nodup (List.mem_of_find?_eq_some hfound) he
      (hkey'.trans hkey.symm)
    rw [Node.valueAt?, hfound, hsame]
    rfl

end Yaml.Node

namespace Rearranges

variable {l below : Level} {t t' : Node} {key : String}

/-- A tree that is rearranged is still a tree. -/
theorem tree (h : Rearranges l t t') (ht : t.Tree) : t'.Tree := by
  induction h with
  | reorder h tag =>
      cases ht with
      | mapping hkeys hnodup hvalues =>
          exact .mapping (fun e he => hkeys e (h.mem_iff.mpr he))
            ((h.map _).nodup_iff.mp hnodup) (fun e he => hvalues e (h.mem_iff.mpr he)) tag
  | @add l entries tag key value name hname hunknown hnew hvalue =>
      cases ht with
      | mapping hkeys hnodup hvalues =>
          refine .mapping (List.forall_mem_cons.mpr ⟨by simp [hname], hkeys⟩) ?_
            (List.forall_mem_cons.mpr ⟨?_, hvalues⟩) tag
          · refine List.nodup_cons.mpr ⟨fun hmem => ?_, hnodup⟩
            obtain ⟨e, he, htext⟩ := List.mem_map.mp hmem
            exact Node.valueAt?_eq_none.mp hnew e he (htext.trans (Node.text?_of_string? hname))
          · obtain ⟨s, hs⟩ := Option.isSome_iff_exists.mp hvalue
            match value, hs with
            | .scalar text style tag, _ => exact .scalar text style tag
  | @under l key v v' name hname h before after tag ih =>
      cases ht with
      | mapping hkeys hnodup hvalues =>
          simp only [List.map_append, List.map_cons, List.forall_mem_append,
            List.forall_mem_cons] at hkeys hnodup hvalues
          refine .mapping ?_ ?_ ?_ tag
          · simpa only [List.forall_mem_append, List.forall_mem_cons] using hkeys
          · simpa only [List.map_append, List.map_cons] using hnodup
          · simpa only [List.forall_mem_append, List.forall_mem_cons] using
              ⟨hvalues.1, ih hvalues.2.1, hvalues.2.2⟩
  | item h before after tag ih =>
      cases ht with
      | sequence hitems =>
          simp only [List.forall_mem_append, List.forall_mem_cons] at hitems
          refine .sequence ?_ tag
          simpa only [List.forall_mem_append, List.forall_mem_cons] using
            ⟨hitems.1, ih hitems.2.1, hitems.2.2⟩

/-- Only collections are rearranged. -/
theorem text? (h : Rearranges l t t') : t.text? = none ∧ t'.text? = none := by
  cases h <;> exact ⟨rfl, rfl⟩

theorem string? (h : Rearranges l t t') : t.string? = none ∧ t'.string? = none := by
  cases h <;> exact ⟨rfl, rfl⟩

theorem isNull (h : Rearranges l t t') : t.isNull = false ∧ t'.isNull = false := by
  cases h <;> exact ⟨rfl, rfl⟩

theorem isRecord (h : Rearranges l t t') : t.isRecord = t'.isRecord := by
  cases h <;> rfl

/-- Under a key with a meaning the same stands as before, or it is rearranged in turn. -/
theorem valueAt? (h : Rearranges l t t') (ht : t.Tree) (hkey : l.fields.lookup key = some below) :
    t.valueAt? key = t'.valueAt? key ∨
      ∃ v v', t.valueAt? key = some v ∧ t'.valueAt? key = some v' ∧ Rearranges below v v' := by
  have ht' := h.tree ht
  cases h with
  | reorder h tag =>
      refine .inl (Option.ext fun v => ?_)
      rw [ht.valueAt?_eq_some, ht'.valueAt?_eq_some]
      simp only [Node.entries, h.mem_iff]
  | @add _ entries tag key' value name hname hunknown hnew hvalue =>
      refine .inl ?_
      have hne : name ≠ key := by
        rintro rfl
        rw [hunknown] at hkey
        cases hkey
      rw [Node.valueAt?, Node.valueAt?, Node.entries, Node.entries, List.find?_cons_of_neg]
      simpa [Node.text?_of_string? hname] using hne
  | @under _ key' v v' name hname h before after tag =>
      have htext := Node.text?_of_string? hname
      by_cases heq : name = key
      · subst heq
        rw [Level.under, hkey] at h
        refine .inr ⟨v, v', ht.valueAt?_eq_some.mpr ⟨(key', v), ?_, htext, rfl⟩,
          ht'.valueAt?_eq_some.mpr ⟨(key', v'), ?_, htext, rfl⟩, h⟩
        · simp [Node.entries]
        · simp [Node.entries]
      · refine .inl (Option.ext fun w => ?_)
        rw [ht.valueAt?_eq_some, ht'.valueAt?_eq_some]
        simp [Node.entries, or_and_right, exists_or, htext, heq]
  | item h before after tag => exact .inl rfl

/-! ### Descriptions -/

section Descriptions

variable {α : Type} {means : Node → α → Prop} {a : α}

/-- What stands under a key means the same as before, if a rearrangement does not change what it
means. -/
theorem given_iff (h : Rearranges l t t') (ht : t.Tree) (hkey : l.fields.lookup key = some below)
    (hmeans : ∀ {v v'}, Rearranges below v v' → v.Tree → (means v a ↔ means v' a)) :
    Given t key means a ↔ Given t' key means a := by
  rcases h.valueAt? ht hkey with heq | ⟨v, v', hv, hv', hrearranges⟩
  · rw [Given, Given, heq]
  · have hiff := hmeans hrearranges (ht.valueAt? hv)
    simp [Given, hv, hv', hiff]

theorem givenOr_iff {other : α} (h : Rearranges l t t') (ht : t.Tree)
    (hkey : l.fields.lookup key = some below)
    (hmeans : ∀ {v v'}, Rearranges below v v' → v.Tree → (means v a ↔ means v' a)) :
    GivenOr t key other means a ↔ GivenOr t' key other means a := by
  have hnone : t.valueAt? key = none ↔ t'.valueAt? key = none := by
    rcases h.valueAt? ht hkey with heq | ⟨v, v', hv, hv', -⟩
    · rw [heq]
    · simp [hv, hv']
  rw [GivenOr, GivenOr, h.given_iff ht hkey hmeans, hnone]

end Descriptions

theorem isText_iff (h : Rearranges l t t') {s : String} : t.text? = some s ↔ t'.text? = some s := by
  rw [h.text?.1, h.text?.2]

theorem isPath_iff (h : Rearranges l t t') {p : Path} : t.IsPath p ↔ t'.IsPath p := by
  rw [Node.IsPath, Node.IsPath, h.text?.1, h.text?.2]

theorem isProgram_iff (h : Rearranges l t t') {p : Path} : t.IsProgram p ↔ t'.IsProgram p := by
  rw [Node.IsProgram, Node.IsProgram, h.string?.1, h.string?.2]

theorem isMode_iff (h : Rearranges l t t') {m : Mode} : t.IsMode m ↔ t'.IsMode m := by
  cases h <;> simp [Node.IsMode, Node.modeName?]

theorem isNatural_iff (h : Rearranges l t t') {n : Nat} : t.IsNatural n ↔ t'.IsNatural n := by
  cases h <;> simp [Node.IsNatural]

/-- A list with a collection in it is no list of arguments. -/
theorem not_forall₂_argument {read : Node → Option String} (h : read t = none)
    (before after : List Node) (args : List Bytes) :
    ¬ List.Forall₂ (fun item arg => ∃ s, read item = some s ∧ arg = Bytes.ofString s)
      (before ++ t :: after) args := by
  intro hall
  obtain ⟨_, s, hs, -⟩ := exists_forall₂_iff.mp ⟨args, hall⟩ t (by simp)
  rw [h] at hs
  cases hs

theorem isArguments_iff (h : Rearranges l t t') {args : List Bytes} :
    t.IsArguments args ↔ t'.IsArguments args := by
  cases h with
  | item h before after tag =>
      simp [Node.IsArguments, Node.items?, not_forall₂_argument h.text?.1,
        not_forall₂_argument h.text?.2]
  | _ => simp [Node.IsArguments, Node.items?, Node.isNothing]

theorem isStrings_iff (h : Rearranges l t t') {args : List Bytes} :
    t.IsStrings args ↔ t'.IsStrings args := by
  cases h with
  | item h before after tag =>
      simp [Node.IsStrings, not_forall₂_argument h.string?.1, not_forall₂_argument h.string?.2]
  | _ => simp [Node.IsStrings]

/-! ### Values -/

section Values

variable {depth : Nat} {tag : Option String}

theorem exists_isValue_sequence {items : List Node} :
    (∃ v, IsValue (depth + 1) (.sequence items tag) v) ↔
      ¬ tag.any Yaml.isLocalTag ∧ ∀ t ∈ items, ∃ v, IsValue depth t v := by
  rw [← exists_forall₂_iff]
  constructor
  · rintro ⟨_, htag, vs, hvs, rfl⟩
    exact ⟨htag, vs, hvs⟩
  · rintro ⟨htag, vs, hvs⟩
    exact ⟨_, htag, vs, hvs, rfl⟩

theorem exists_isValue_mapping {entries : List (Node × Node)} :
    (∃ v, IsValue (depth + 1) (.mapping entries tag) v) ↔
      ¬ tag.any Yaml.isLocalTag ∧
        ∀ e ∈ entries, (∃ v, IsValue depth e.1 v) ∧ ∃ v, IsValue depth e.2 v := by
  have hboth : ∀ e : Node × Node, ((∃ v, IsValue depth e.1 v) ∧ ∃ v, IsValue depth e.2 v) ↔
      ∃ v : Value × Value, IsValue depth e.1 v.1 ∧ IsValue depth e.2 v.2 := by
    intro e
    simp [Prod.exists]
  simp only [hboth, ← exists_forall₂_iff]
  constructor
  · rintro ⟨_, htag, vs, hvs, rfl⟩
    exact ⟨htag, vs, hvs⟩
  · rintro ⟨htag, vs, hvs⟩
    exact ⟨_, htag, vs, hvs, rfl⟩

/-- A rearranged tree has a value if and only if it had one before. -/
theorem exists_isValue_iff (h : Rearranges l t t') {depth : Nat} :
    (∃ v, IsValue depth t v) ↔ ∃ v, IsValue depth t' v := by
  induction h generalizing depth with
  | reorder h tag =>
      cases depth with
      | zero => rfl
      | succ depth => simp only [exists_isValue_mapping, h.mem_iff]
  | add hname hunknown hnew hvalue =>
      cases depth with
      | zero => rfl
      | succ depth =>
          obtain ⟨s, hs⟩ := Option.isSome_iff_exists.mp hvalue
          have hkey : ∃ v, IsValue depth _ v := ⟨_, Yaml.isValue_of_string? hname⟩
          have hvalue : ∃ v, IsValue depth _ v := ⟨_, Yaml.isValue_of_string? hs⟩
          simp only [exists_isValue_mapping, List.forall_mem_cons, hkey, hvalue, true_and]
  | under hname h before after tag ih =>
      cases depth with
      | zero => rfl
      | succ depth =>
          simp only [exists_isValue_mapping, List.forall_mem_append, List.forall_mem_cons, ih]
  | item h before after tag ih =>
      cases depth with
      | zero => rfl
      | succ depth =>
          simp only [exists_isValue_sequence, List.forall_mem_append, List.forall_mem_cons, ih]

end Values

/-! ### Records -/

theorem stage_iff (h : Rearranges .stage t t') (ht : t.Tree) {s : Stage} :
    Stage.Described t s ↔ Stage.Described t' s := by
  have hprogram : Given t "program" Node.IsProgram s.program ↔ _ :=
    h.given_iff ht rfl fun h _ => h.isProgram_iff
  have hargs : GivenOr t "args" [] Node.IsStrings s.args ↔ _ :=
    h.givenOr_iff ht rfl fun h _ => h.isStrings_iff
  -- What is only a string is not rearranged, and no mapping is a string.
  have hno : ∀ {t : Node} {p : Path}, t.string? = none → ¬ t.IsProgram p := by
    rintro t p h ⟨s, hs, -⟩
    rw [h] at hs
    cases hs
  constructor
  · rintro (hp | ⟨hvalue, hp, ha⟩)
    · exact absurd hp (hno h.string?.1)
    · exact .command (h.exists_isValue_iff.mp hvalue) (hprogram.mp hp) (hargs.mp ha)
  · rintro (hp | ⟨hvalue, hp, ha⟩)
    · exact absurd hp (hno h.string?.2)
    · exact .command (h.exists_isValue_iff.mpr hvalue) (hprogram.mpr hp) (hargs.mpr ha)

theorem variant_iff (h : Rearranges .variant t t') (ht : t.Tree) {v : Variant} :
    Variant.Described t v ↔ Variant.Described t' v := by
  have hlabel : Given t "label" (fun t s => t.text? = some s) v.label ↔ _ :=
    h.given_iff ht rfl fun h _ => h.isText_iff
  have hlexer : Given t "lexer" Stage.Described v.lexer ↔ _ :=
    h.given_iff ht rfl fun h ht => h.stage_iff ht
  have hparser : Given t "parser" Stage.Described v.parser ↔ _ :=
    h.given_iff ht rfl fun h ht => h.stage_iff ht
  rw [Variant.described_iff, Variant.described_iff, hlabel, hlexer, hparser]

theorem corpus_iff (h : Rearranges .corpus t t') (ht : t.Tree) {c : Corpus} :
    Corpus.Described t c ↔ Corpus.Described t' c := by
  have hpath : ∀ {key : String} {other p : Path}, Level.corpus.fields.lookup key = some .other →
      (GivenOr t key other Node.IsPath p ↔ GivenOr t' key other Node.IsPath p) := fun hkey =>
    h.givenOr_iff ht hkey fun h _ => h.isPath_iff
  have hextension : GivenOr t "extension" "cl" (fun t s => t.text? = some s) c.extension ↔ _ :=
    h.givenOr_iff ht rfl fun h _ => h.isText_iff
  rw [Corpus.described_iff, Corpus.described_iff, h.isRecord, hpath rfl, hpath rfl, hpath rfl,
    hextension]

theorem build_iff (h : Rearranges .build t t') (ht : t.Tree) {found : Option Build} :
    Build.OptionDescribed t found ↔ Build.OptionDescribed t' found := by
  have hbuild : ∀ b, Build.Described t b ↔ Build.Described t' b := by
    intro b
    have hprogram : Given t "program" Node.IsPath b.program ↔ _ :=
      h.given_iff ht rfl fun h _ => h.isPath_iff
    have hargs : GivenOr t "args" [] Node.IsArguments b.args ↔ _ :=
      h.givenOr_iff ht rfl fun h _ => h.isArguments_iff
    have hdir : GivenOr t "dir" (.ofString "src") Node.IsPath b.dir ↔ _ :=
      h.givenOr_iff ht rfl fun h _ => h.isPath_iff
    rw [Build.described_iff, Build.described_iff, hprogram, hargs, hdir]
  simp only [Build.OptionDescribed, h.isNull, hbuild]

theorem config_iff (h : Rearranges .config t t') (ht : t.Tree) {c : Config} :
    Config.Described t c ↔ Config.Described t' c := by
  have hmode : GivenOr t "mode" .parser Node.IsMode c.mode ↔ _ :=
    h.givenOr_iff ht rfl fun h _ => h.isMode_iff
  have hscratch : GivenOr t "scratch_dir" (.ofString "temp") Node.IsPath c.scratchDir ↔ _ :=
    h.givenOr_iff ht rfl fun h _ => h.isPath_iff
  have hcorpus : GivenOr t "corpus" .conventional Corpus.Described c.corpus ↔ _ :=
    h.givenOr_iff ht rfl fun h ht => h.corpus_iff ht
  have hbuild : GivenOr t "build" (some .conventional) Build.OptionDescribed c.build ↔ _ :=
    h.givenOr_iff ht rfl fun h ht => h.build_iff ht
  have hvariant : ∀ {key : String} {other v : Variant},
      Level.config.fields.lookup key = some .variant →
      (GivenOr t key other Variant.Described v ↔ GivenOr t' key other Variant.Described v) :=
    fun hkey => h.givenOr_iff ht hkey fun h ht => h.variant_iff ht
  have hcontext : GivenOr t "context_lines" 3 Node.IsNatural c.contextLines ↔ _ :=
    h.givenOr_iff ht rfl fun h _ => h.isNatural_iff
  rw [Config.described_iff, Config.described_iff, h.isRecord, hmode, hscratch, hcorpus, hbuild,
    hvariant rfl, hvariant rfl, hcontext]

end Rearranges

/-- **A rearranged document describes the same configurations.** -/
theorem Config.described_of_rearranges {t t' : Node}
    (h : Relation.ReflTransGen (Rearranges .config) t t') (ht : t.Tree) (c : Config) :
    t'.Tree ∧ (Config.Described t c ↔ Config.Described t' c) := by
  induction h with
  | refl => exact ⟨ht, Iff.rfl⟩
  | tail _ hstep ih => exact ⟨hstep.tree ih.1, ih.2.trans (hstep.config_iff ih.1)⟩

end TwinRun
