import TwinRun.Proofs.Config.Described
import TwinRun.Proofs.Yaml.Reading

/-!
Reading a configuration from a document.

* `Config.gives_entryOf`, `Config.gives_entryOr`: reading what stands under a key.
* `Config.gives_readStage`, `Config.gives_readVariant`, `Config.gives_readCorpus`,
  `Config.gives_readOptionalBuild`: each part is read as the tree describes it.
* `Config.gives_readConfig`: and so is the whole.
-/

namespace TwinRun

open Yaml (Node Value Following Spells Gives Field Fields IsValue)

namespace Config

/-! ### Entries -/

section Entries

variable {α β : Type} {anchors : List (Nat × Node)} {k : Nat} {key : String} {t : Node}

theorem entry_of_absent {record : List (String × α)} (h : record.filter (·.1 == key) = []) :
    entry record key = pure none := by
  rw [entry, h]

theorem entry_of_present {record : List (String × α)} {a : α}
    (h : record.filter (·.1 == key) = [(key, a)]) : entry record key = pure (some a) := by
  rw [entry, h]

variable {record : List (String × Node)} {read : Node → Following β} {means : Node → β → Prop}

theorem gives_entryOf (h : Field (Spells anchors) k record key (t.valueAt? key))
    (hread : ∀ {n v}, t.valueAt? key = some v → Spells anchors k n v → Gives k (read n) (means v)) :
    Gives k (entryOf record key read) (Given t key means) := by
  rw [entryOf]
  cases hv : t.valueAt? key with
  | none =>
      rw [hv] at h
      obtain ⟨habsent⟩ := h
      rw [entry_of_absent habsent, pure_bind]
      exact .failure fun a => by simp [Given, hv]
  | some v =>
      rw [hv] at h
      obtain _ | ⟨hpresent, hn⟩ := h
      rw [entry_of_present hpresent, pure_bind]
      exact (hread hv hn).congr fun a => by simp [Given, hv]

theorem gives_entryOr (other : β) (h : Field (Spells anchors) k record key (t.valueAt? key))
    (hread : ∀ {n v}, t.valueAt? key = some v → Spells anchors k n v → Gives k (read n) (means v)) :
    Gives k (entryOr record key other read) (GivenOr t key other means) := by
  rw [entryOr]
  cases hv : t.valueAt? key with
  | none =>
      rw [hv] at h
      obtain ⟨habsent⟩ := h
      rw [entry_of_absent habsent, pure_bind]
      exact ((Gives.pure other).congr fun a => by simp [GivenOr, Given, hv]).mono (Nat.zero_le k)
  | some v =>
      rw [hv] at h
      obtain _ | ⟨hpresent, hn⟩ := h
      rw [entry_of_present hpresent, pure_bind]
      exact (hread hv hn).congr fun a => by simp [GivenOr, Given, hv]

end Entries

variable {anchors : List (Nat × Node)} {k : Nat} {n t : Node}

/-! ### Scalars -/

theorem gives_readMode (h : Spells anchors k n t) : Gives k (readMode anchors n) t.IsMode := by
  refine h.gives_follow fun hm hdirect => ?_
  cases hm with
  | scalar text style tag =>
      have hname : ∀ name : Option String, (Node.scalar text style tag).modeName? = name →
          Gives 0 ((name.bind Mode.ofName?).elim failure pure)
            (Node.scalar text style tag).IsMode := fun name hname =>
        (Gives.elim _).congr fun m => by rw [Node.IsMode, hname, Option.bind_eq_some_iff]
      cases tag with
      | none => exact hname (some text) rfl
      | some tag =>
          dsimp only
          split_ifs with hlocal hempty
          · exact hname (some _) (by rw [Node.modeName?, if_pos hlocal, if_pos hempty])
          · exact hname none (by rw [Node.modeName?, if_pos hlocal, if_neg hempty])
          · exact hname (some text) (by rw [Node.modeName?, if_neg hlocal])
  | sequence _ tag => exact .failure fun s => by simp [Node.IsMode, Node.modeName?]
  | mapping _ tag => exact .failure fun s => by simp [Node.IsMode, Node.modeName?]
  | named => exact absurd rfl (hdirect _)

theorem gives_readNatural (h : Spells anchors k n t) :
    Gives k (readNatural anchors n) t.IsNatural := by
  refine h.gives_follow fun hm hdirect => ?_
  cases hm with
  | scalar text style tag =>
      dsimp only
      split_ifs with hstyle
      · cases hread : Yaml.natural? text.toList with
        | none => exact .failure fun a => by simp [Node.IsNatural, hread]
        | some number =>
            dsimp only
            split_ifs with hlt
            · exact (Gives.pure number).congr fun a => by grind [Node.IsNatural]
            · exact .failure fun a => by grind [Node.IsNatural]
      · exact .failure fun a => by grind [Node.IsNatural]
  | sequence _ tag => exact .failure fun s => by simp [Node.IsNatural]
  | mapping _ tag => exact .failure fun s => by simp [Node.IsNatural]
  | named => exact absurd rfl (hdirect _)

theorem gives_readArgs (h : Spells anchors k n t) :
    Gives k (readArgs anchors n) t.IsArguments := by
  have hargs : ∀ {j items ts}, t.items? = some ts → Yaml.Itemwise (Spells anchors) j items ts →
      Gives j (items.mapM fun item => do return Bytes.ofString (← item.asText anchors))
        t.IsArguments := by
    intro j items ts hts hitems
    refine (Gives.mapM hitems fun hitem => (Yaml.gives_asText hitem).map).congr fun args => ?_
    simp [Node.IsArguments, hts]
  refine (Yaml.gives_asItems_bind h hargs).congr fun args => ⟨And.right, fun hall => ⟨?_, hall⟩⟩
  obtain ⟨items, hitems, -⟩ := hall
  rw [hitems]
  rfl

/-! ### Stages -/

section Stages

variable {depth : Nat} {v : Value}

/-- Strings are known from their values. -/
theorem mapM_textValue?_iff {items : List Node} {vs : List Value}
    (h : List.Forall₂ (IsValue depth) items vs) {args : List Bytes} :
    (∃ ss, vs.mapM textValue? = some ss ∧ args = ss.map Bytes.ofString) ↔
      List.Forall₂ (fun item arg => ∃ s, item.string? = some s ∧ arg = Bytes.ofString s)
        items args := by
  induction h generalizing args with
  | nil => simp
  | @cons item v items vs hitem _ ih =>
      rw [List.mapM_cons, List.forall₂_cons_left_iff]
      simp only [← ih, Yaml.string?_of_isValue hitem]
      cases textValue? v <;> cases vs.mapM textValue? <;> simp

/-- A list of strings is known from its value. -/
theorem textValues?_iff (h : IsValue depth t v) {args : List Bytes} :
    (∃ ss, textValues? v = some ss ∧ args = ss.map Bytes.ofString) ↔ t.IsStrings args := by
  match depth, t, h with
  | _, .scalar text style tag, h =>
      rcases Yaml.scalarValue?_cases (Yaml.isValue_scalar.mp h) with rfl | rfl | ⟨n, rfl⟩ <;>
        simp [textValues?, Node.IsStrings]
  | _ + 1, .sequence items tag, ⟨_, vs, hitems, hv⟩ =>
      simpa [hv, textValues?, Node.IsStrings] using mapM_textValue?_iff hitems
  | _ + 1, .mapping entries tag, ⟨_, vs, _, hv⟩ => simp [hv, textValues?, Node.IsStrings]
  | _ + 1, .alias anchor, h => cases h

/-- A stage's record has the values of its entries. -/
theorem stage_record {entries : List (Node × Node)} {vs : List (Value × Value)}
    (h : List.Forall₂ (fun e v => IsValue depth e.1 v.1 ∧ IsValue depth e.2 v.2) entries vs)
    (hkeys : ∀ e ∈ entries, e.1.string?.isSome) :
    ∃ record, Yaml.Itemwise (Yaml.Named fun k v t => k = 0 ∧ IsValue depth t v) 0 record entries ∧
      (vs.filterMapM fun (key, value) =>
        match stageKey? key with
        | some name => return name.map (·, value)
        | none => failure) = (pure record : Following (List (String × Value))) := by
  induction h with
  | nil => exact ⟨[], .nil, rfl⟩
  | @cons e v entries vs he _ ih =>
      obtain ⟨hkey, hkeys⟩ := List.forall_mem_cons.mp hkeys
      obtain ⟨record, hrecord, hread⟩ := ih hkeys
      obtain ⟨name, hname⟩ := Option.isSome_iff_exists.mp hkey
      obtain ⟨key, value⟩ := v
      have hv : key = .text name :=
        Yaml.textValue?_eq_some.mp ((Yaml.string?_of_isValue he.1).symm.trans hname)
      have hnamed : Yaml.Named (fun k v t => k = 0 ∧ IsValue depth t v) 0 (name, value) e :=
        ⟨Node.text?_of_string? hname, rfl, he.2⟩
      refine ⟨(name, value) :: record, .cons hnamed hrecord, ?_⟩
      rw [List.filterMapM_cons, hread, hv]
      rfl

/-- The program of a stage. -/
theorem gives_stageProgram {record : List (String × Value)}
    (h : Field (fun k v t => k = 0 ∧ IsValue depth t v) k record "program" (t.valueAt? "program")) :
    Gives 0 (do ((← entry record "program").bind textValue?).elim failure pure)
      (fun s => ∃ v, t.valueAt? "program" = some v ∧ v.string? = some s) := by
  generalize t.valueAt? "program" = found at h
  cases h with
  | absent h =>
      rw [entry_of_absent h, pure_bind]
      exact .failure fun s => by simp
  | present h hv =>
      rw [entry_of_present h, pure_bind]
      exact (Gives.elim _).congr fun s => by simp [Yaml.string?_of_isValue hv.2]

/-- The arguments of a stage, behind its program. -/
theorem gives_stageArgs {record : List (String × Value)} (program : Path)
    (h : Field (fun k v t => k = 0 ∧ IsValue depth t v) k record "args" (t.valueAt? "args")) :
    Gives 0 (do
      let args ← match ← entry record "args" with
        | some args => (textValues? args).elim failure pure
        | none => pure []
      return (⟨program, args.map Bytes.ofString⟩ : Stage))
      (fun s => ∃ args, GivenOr t "args" [] Node.IsStrings args ∧ s = ⟨program, args⟩) := by
  simp only [GivenOr, Given]
  generalize t.valueAt? "args" = found at h
  cases h with
  | absent h =>
      rw [entry_of_absent h, pure_bind]
      exact (Gives.pure _).congr fun s => by simp
  | present h hv =>
      rw [entry_of_present h, pure_bind]
      refine (Gives.elim _).map.congr fun s => ?_
      constructor
      · rintro ⟨ss, hss, rfl⟩
        exact ⟨_, .inl ⟨_, rfl, (textValues?_iff hv.2).mp ⟨ss, hss, rfl⟩⟩, rfl⟩
      · rintro ⟨args, (⟨_, ⟨⟩, hargs⟩ | ⟨⟨⟩, -⟩), rfl⟩
        obtain ⟨ss, hss, rfl⟩ := (textValues?_iff hv.2).mpr hargs
        exact ⟨ss, hss, rfl⟩

/-- A program and its arguments. -/
theorem gives_stageOfValue_mapping {vs : List (Value × Value)} (ht : t.Tree)
    (hv : IsValue (maxDepth - 2) t (.mapping vs)) :
    Gives 0 (stageOfValue (.mapping vs)) (Stage.Described t) := by
  obtain ⟨depth, hentries⟩ := Yaml.entries_of_isValue hv
  obtain ⟨record, hrecord, hread⟩ := stage_record hentries ht.isSome_string?
  obtain ⟨cost, hfields⟩ := hrecord.fields ht
  have hopen : stageOfValue (.mapping vs) = (do
      let program ← (do ((← entry record "program").bind textValue?).elim failure pure)
      let args ← match ← entry record "args" with
        | some args => (textValues? args).elim failure pure
        | none => pure []
      return ⟨.ofString program, args.map Bytes.ofString⟩) := by
    rw [stageOfValue, bind_assoc]
    exact (congrArg (· >>= _) hread).trans (pure_bind _ _)
  rw [hopen]
  refine (Gives.bind (gives_stageProgram (hfields.field "program")) fun program _ =>
    gives_stageArgs _ (hfields.field "args")).congr fun s => ?_
  have hstring : t.string? = none := Yaml.string?_of_isValue hv
  constructor
  · rintro ⟨program, ⟨v, hprogram, hv'⟩, args, hargs, rfl⟩
    exact .command ⟨_, hv⟩ ⟨v, hprogram, program, hv', rfl⟩ hargs
  · rintro (⟨⟨p, hp, -⟩⟩ | ⟨-, ⟨v, hprogram, program, hv', hp⟩, hargs⟩)
    · rw [hstring] at hp
      cases hp
    · exact ⟨program, ⟨v, hprogram, hv'⟩, s.args, hargs, by rw [← hp]⟩

/-- Reading a stage from a value. -/
theorem gives_stageOfValue (ht : t.Tree) (hv : IsValue (maxDepth - 2) t v) :
    Gives 0 (stageOfValue v) (Stage.Described t) := by
  have hprogram : t.entries = [] → ∀ s, Stage.Described t s ↔
      ∃ p, textValue? v = some p ∧ s = { program := .ofString p } := fun hnil s => by
    rw [Stage.described_iff_of_nil hnil, Yaml.string?_of_isValue hv]
  cases ht with
  | scalar text style tag =>
      rcases Yaml.scalarValue?_cases (Yaml.isValue_scalar.mp hv) with rfl | rfl | ⟨n, rfl⟩
      · exact (Gives.pure _).congr fun s => by rw [hprogram rfl]; simp [textValue?]
      · exact .failure fun s => by rw [hprogram rfl]; simp [textValue?]
      · exact .failure fun s => by rw [hprogram rfl]; simp [textValue?]
  | sequence h tag =>
      obtain ⟨_, vs, _, rfl⟩ := hv
      exact .failure fun s => by rw [hprogram rfl]; simp [textValue?]
  | mapping hkeys hnodup h tag =>
      obtain ⟨_, vs, _, rfl⟩ := id hv
      exact gives_stageOfValue_mapping (.mapping hkeys hnodup h tag) hv

theorem gives_readStage (h : Spells anchors k n t) (ht : t.Tree) :
    Gives k (readStage anchors n) (Stage.Described t) := by
  refine ((Yaml.gives_value h).bind fun v hv => gives_stageOfValue ht hv).congr fun s => ?_
  constructor
  · rintro ⟨v, -, hs⟩
    exact hs
  · intro hs
    cases hs with
    | program hp =>
        obtain ⟨p, hstring, -⟩ := id hp
        exact ⟨_, Yaml.isValue_of_string? hstring, .program hp⟩
    | command hvalue hprogram hargs =>
        obtain ⟨v, hv⟩ := hvalue
        exact ⟨v, hv, .command ⟨v, hv⟩ hprogram hargs⟩

end Stages

/-! ### Records -/

section Records

/-- Readers of different entries of a record, one after the other, follow no more aliases than all
its entries ask for. -/
theorem gives_record {α : Type} (h : Spells anchors k n t) (ht : t.Tree) (keys : List String)
    (hkeys : keys.Nodup) {f : List (String × Node) → Following α} {P Q : α → Prop}
    (hf : ∀ {record cost}, (∀ key, Field (Spells anchors) (cost key) record key (t.valueAt? key)) →
      Gives (keys.map cost).sum (f record) P) (hPQ : ∀ a, t.isRecord ∧ P a ↔ Q a) :
    Gives k (n.asRecord anchors >>= f) Q :=
  (Yaml.gives_asRecord_bind h ht fun hfields =>
    (hf hfields.field).mono (hfields.sum_le hkeys)).congr hPQ

theorem gives_readVariant (h : Spells anchors k n t) (ht : t.Tree) :
    Gives k (readVariant anchors n) (Variant.Described t) := by
  have hstage : ∀ {key k n v}, t.valueAt? key = some v → Spells anchors k n v →
      Gives k (readStage anchors n) (Stage.Described v) := fun hv hn =>
    gives_readStage hn (ht.valueAt? hv)
  refine gives_record h ht ["label", "lexer", "parser"] (by decide) (fun hfield =>
    (gives_entryOf (hfield "label") fun _ => Yaml.gives_asText).bind fun label _ =>
    (gives_entryOf (hfield "lexer") hstage).bind fun lexer _ =>
    (gives_entryOf (hfield "parser") hstage).bind fun parser _ => .pure _) fun v => ?_
  constructor
  · rintro ⟨-, label, hlabel, lexer, hlexer, parser, hparser, rfl⟩
    exact ⟨hlabel, hlexer, hparser⟩
  · rintro ⟨hlabel, hlexer, hparser⟩
    exact ⟨hlabel.isRecord, _, hlabel, _, hlexer, _, hparser, rfl⟩

theorem gives_readCorpus (h : Spells anchors k n t) (ht : t.Tree) :
    Gives k (readCorpus anchors n) (Corpus.Described t) := by
  refine gives_record h ht ["general", "lexer", "parser", "extension"] (by decide) (fun hfield =>
    (gives_entryOr _ (hfield "general") fun _ => Yaml.gives_asPath).bind fun general _ =>
    (gives_entryOr _ (hfield "lexer") fun _ => Yaml.gives_asPath).bind fun lexer _ =>
    (gives_entryOr _ (hfield "parser") fun _ => Yaml.gives_asPath).bind fun parser _ =>
    (gives_entryOr _ (hfield "extension") fun _ => Yaml.gives_asText).bind fun extension _ =>
      .pure _) fun c => ?_
  constructor
  · rintro ⟨hrecord, general, hgeneral, lexer, hlexer, parser, hparser, extension, hextension, rfl⟩
    exact ⟨hrecord, hgeneral, hlexer, hparser, hextension⟩
  · rintro ⟨hrecord, hgeneral, hlexer, hparser, hextension⟩
    exact ⟨hrecord, _, hgeneral, _, hlexer, _, hparser, _, hextension, rfl⟩

theorem gives_readBuild (h : Spells anchors k n t) (ht : t.Tree) :
    Gives k (readBuild anchors n) (Build.Described t) := by
  refine gives_record h ht ["program", "args", "dir"] (by decide) (fun hfield =>
    (gives_entryOf (hfield "program") fun _ => Yaml.gives_asPath).bind fun program _ =>
    (gives_entryOr _ (hfield "args") fun _ => gives_readArgs).bind fun args _ =>
    (gives_entryOr _ (hfield "dir") fun _ => Yaml.gives_asPath).bind fun dir _ => .pure _)
    fun b => ?_
  constructor
  · rintro ⟨-, program, hprogram, args, hargs, dir, hdir, rfl⟩
    exact ⟨hprogram, hargs, hdir⟩
  · rintro ⟨hprogram, hargs, hdir⟩
    exact ⟨hprogram.isRecord, _, hprogram, _, hargs, _, hdir, rfl⟩

theorem gives_readOptionalBuild (h : Spells anchors k n t) (ht : t.Tree) :
    Gives k (readOptionalBuild anchors n) (Build.OptionDescribed t) := by
  refine h.gives_follow fun {k m} hm hdirect => ?_
  have hnull : t.isNull = true → Gives 0 (pure none : Following (Option Build))
      (Build.OptionDescribed t) := fun hnull =>
    (Gives.pure none).congr fun b => by rw [Build.OptionDescribed, if_pos hnull]
  have hsome : t.isNull = false → Gives k (do return some (← readBuild anchors m))
      (Build.OptionDescribed t) := fun hnull =>
    (gives_readBuild hm ht).map.congr fun b => by
      rw [Build.OptionDescribed, if_neg (Bool.eq_false_iff.mp hnull)]
  cases hm with
  | scalar text style tag =>
      cases style with
      | plain =>
          have hiff : (Node.scalar text .plain tag).isNull ↔
              (tag = some (Yaml.coreTag "null") ∧ Yaml.isNull text)
                ∨ (tag.isNone ∧ (text.isEmpty ∨ Yaml.isNull text)) := by
            simp [Node.isNull]
          dsimp only
          split_ifs with htag hisNull hempty
          · exact hnull (hiff.mpr (.inl ⟨htag, hisNull⟩))
          · -- Nothing but null may have this tag.
            refine .failure fun found => ?_
            rw [Build.OptionDescribed, if_neg (by simp [Node.isNull, htag, hisNull])]
            rintro ⟨b, ⟨⟨v, hv, -⟩, -, -⟩, -⟩
            cases hv
          · exact hnull (hiff.mpr (.inr hempty))
          · refine hsome (Bool.eq_false_iff.mpr fun h => ?_)
            rcases hiff.mp h with ⟨h, -⟩ | h
            · exact htag h
            · exact hempty h
      | _ => exact hsome rfl
  | sequence _ tag => exact hsome rfl
  | mapping _ tag => exact hsome rfl
  | named => exact absurd rfl (hdirect _)

theorem gives_readConfig (h : Spells anchors k n t) (ht : t.Tree) :
    Gives k (readConfig anchors n) (Config.Described t) := by
  have hvariant : ∀ {key k n v}, t.valueAt? key = some v → Spells anchors k n v →
      Gives k (readVariant anchors n) (Variant.Described v) := fun hv hn =>
    gives_readVariant hn (ht.valueAt? hv)
  have hcorpus : ∀ {k n v}, t.valueAt? "corpus" = some v → Spells anchors k n v →
      Gives k (readCorpus anchors n) (Corpus.Described v) := fun hv hn =>
    gives_readCorpus hn (ht.valueAt? hv)
  have hbuild : ∀ {k n v}, t.valueAt? "build" = some v → Spells anchors k n v →
      Gives k (readOptionalBuild anchors n) (Build.OptionDescribed v) := fun hv hn =>
    gives_readOptionalBuild hn (ht.valueAt? hv)
  refine gives_record h ht ["mode", "scratch_dir", "corpus", "build", "candidate", "reference",
    "context_lines"] (by decide) (fun hfield =>
    (gives_entryOr _ (hfield "mode") fun _ => gives_readMode).bind fun mode _ =>
    (gives_entryOr _ (hfield "scratch_dir") fun _ => Yaml.gives_asPath).bind fun scratch _ =>
    (gives_entryOr _ (hfield "corpus") hcorpus).bind fun corpus _ =>
    (gives_entryOr _ (hfield "build") hbuild).bind fun build _ =>
    (gives_entryOr _ (hfield "candidate") hvariant).bind fun candidate _ =>
    (gives_entryOr _ (hfield "reference") hvariant).bind fun reference _ =>
    (gives_entryOr _ (hfield "context_lines") fun _ => gives_readNatural).bind fun context _ =>
      .pure _) fun c => ?_
  constructor
  · rintro ⟨hrecord, mode, hmode, scratch, hscratch, corpus, hcorpus, build, hbuild, candidate,
      hcandidate, reference, hreference, context, hcontext, rfl⟩
    exact ⟨hrecord, hmode, hscratch, hcorpus, hbuild, hcandidate, hreference, hcontext⟩
  · rintro ⟨hrecord, hmode, hscratch, hcorpus, hbuild, hcandidate, hreference, hcontext⟩
    exact ⟨hrecord, _, hmode, _, hscratch, _, hcorpus, _, hbuild, _, hcandidate, _, hreference, _,
      hcontext, rfl⟩

end Records

end Config

end TwinRun
