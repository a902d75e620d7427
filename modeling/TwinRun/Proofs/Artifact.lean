import TwinRun.Case
import TwinRun.Config.Basic
import TwinRun.Proofs.Path
import TwinRun.Proofs.Text.Lines

/-!
Names of artifacts.

* `Config.labels_of_validate`: the labels of an accepted configuration are distinct and free of
  separators.
* `artifactName_injective`: the name of an artifact tells the case and the label.
* `ordinaryName_artifactName`: it is an ordinary name for an entry of a directory.
* `artifactPath_separates`: artifacts stay apart, and in the scratch directory.
-/

namespace TwinRun

theorem Bytes.ofString_injective : Function.Injective Bytes.ofString := fun s t h => by
  have hchars := congrArg Lossy.chars h
  rwa [Lossy.chars_ofString, Lossy.chars_ofString, String.toList_inj] at hchars

/-! ### Labels -/

/-- A label that holds something, but no separators. -/
structure ProperLabel (label : String) : Prop where
  ne_empty : label ≠ ""
  underscore : '_' ∉ label.toList
  slash : '/' ∉ label.toList

theorem Config.properLabel_of_labelProblem {side : Side} {label : String}
    (h : labelProblem side label = none) : ProperLabel label := by
  unfold labelProblem at h
  split at h
  · cases h
  next hempty =>
  split at h
  · cases h
  next hsep =>
  have hfree : ∀ c ∈ labelSeparators, c ∉ label.toList := by
    intro c hc hmem
    exact hsep (List.any_eq_true.mpr ⟨c, hmem, by simpa using hc⟩)
  exact ⟨fun heq => hempty (by rw [heq]; rfl), hfree _ (by decide), hfree _ (by decide)⟩

/-- The labels of an accepted configuration. -/
theorem Config.labels_of_validate {c : Config} (h : c.validate = .ok ()) :
    (∀ side, ProperLabel (c.variant side).label) ∧ c.candidate.label ≠ c.reference.label := by
  unfold validate at h
  cases hproblem : c.problem? with
  | some problem => rw [hproblem] at h; cases h
  | none =>
      rw [problem?, Option.or_eq_none_iff, Option.or_eq_none_iff] at hproblem
      obtain ⟨⟨hlabels, hshared⟩, -⟩ := hproblem
      rw [List.findSome?_eq_none_iff] at hlabels
      refine ⟨fun side => properLabel_of_labelProblem (hlabels side ?_), fun heq => ?_⟩
      · cases side <;> decide
      · rw [if_pos heq] at hshared
        cases hshared

/-! ### Names of artifacts -/

/-- Lists are cut in only one way at a first occurrence. -/
theorem append_cons_inj {α : Type} {a : α} {x x' z z' : List α} (h : a ∉ x) (h' : a ∉ x')
    (heq : x ++ a :: z = x' ++ a :: z') : x = x' ∧ z = z' := by
  induction x generalizing x' with
  | nil =>
      cases x' with
      | nil => exact ⟨rfl, (List.cons.inj heq).2⟩
      | cons b x' =>
          obtain ⟨hb, -⟩ := List.cons.inj heq
          exact absurd (hb ▸ List.mem_cons_self) h'
  | cons b x ih =>
      cases x' with
      | nil =>
          obtain ⟨hb, -⟩ := List.cons.inj heq
          exact absurd (hb ▸ List.mem_cons_self) h
      | cons b' x' =>
          obtain ⟨rfl, hrest⟩ := List.cons.inj heq
          obtain ⟨rfl, hz⟩ := ih (List.not_mem_of_not_mem_cons h) (List.not_mem_of_not_mem_cons h')
            hrest
          exact ⟨rfl, hz⟩

theorem toList_artifactName (name label : String) :
    (artifactName name label).toList
      = name.toList ++ '_' :: (label.toList ++ ".out".toList) := by
  simp [artifactName, artifactExtension]

/-- The name of an artifact tells the case and the label, whatever the name of the case looks
like. -/
theorem artifactName_injective {n n' l l' : String} (hl : ProperLabel l) (hl' : ProperLabel l')
    (h : artifactName n l = artifactName n' l') : n = n' ∧ l = l' := by
  have hlist := congrArg String.toList h
  rw [toList_artifactName, toList_artifactName, List.append_cons, List.append_cons n'.toList,
    ← List.append_assoc, ← List.append_assoc] at hlist
  have hreverse := congrArg List.reverse (List.append_cancel_right hlist)
  simp only [List.reverse_append, List.reverse_singleton] at hreverse
  obtain ⟨hlabel, hname⟩ := append_cons_inj (fun hmem => hl.underscore (List.mem_reverse.mp hmem))
    (fun hmem => hl'.underscore (List.mem_reverse.mp hmem)) hreverse
  exact ⟨String.toList_inj.mp (List.reverse_injective hname),
    String.toList_inj.mp (List.reverse_injective hlabel)⟩

/-- The name of an artifact is an ordinary name, if the name of the case holds no slash. -/
theorem ordinaryName_artifactName {name label : String} (hname : '/' ∉ name.toList)
    (hlabel : ProperLabel label) : OrdinaryName (Bytes.ofString (artifactName name label)) := by
  -- The underscore between name and label makes it neither empty nor one of the two names of dots.
  have hunderscore : (95 : UInt8) ∈ Bytes.ofString (artifactName name label) := by
    rw [Bytes.ofString_eq_flatMap, List.mem_flatMap]
    exact ⟨'_', by rw [toList_artifactName]; simp, by decide⟩
  refine ⟨List.ne_nil_of_mem hunderscore, fun h => ?_, fun h => ?_, ?_⟩
  · rw [h] at hunderscore
    exact absurd hunderscore (by decide)
  · rw [h] at hunderscore
    exact absurd hunderscore (by decide)
  · refine TextLine.ascii_not_mem_ofString Lossy.ascii_slash ?_
    have hslash : Lossy.asciiChar Bytes.slash = '/' := by decide
    rw [hslash, toList_artifactName]
    simp [hname, hlabel.slash]

/-! ### Names of cases -/

/-- No ordinary step of a path holds a slash. -/
theorem Path.slash_not_mem_of_normal {p : Path} {name : Bytes}
    (h : Component.normal name ∈ p.components) : Bytes.slash ∉ name := by
  unfold components at h
  rcases List.mem_append.mp h with h | h
  · split at h
    · cases List.mem_singleton.mp h
    · split at h
      · cases List.mem_singleton.mp h
      · cases h
  · obtain ⟨piece, hpiece, hname⟩ := List.mem_filterMap.mp h
    unfold Component.ofName at hname
    split at hname
    · cases hname
    · split at hname <;> cases hname
      exact Bytes.not_mem_of_mem_splitOn hpiece

/-- No file gives its case a name with a slash. -/
theorem Case.slash_not_mem_of_nameOf? {path : Path} {name : String}
    (h : Case.nameOf? path = some name) : '/' ∉ name.toList := by
  rw [Case.nameOf?, Option.map_eq_some_iff] at h
  obtain ⟨bytes, hbytes, rfl⟩ := h
  unfold Path.fileName? at hbytes
  split at hbytes
  · next hlast =>
      cases hbytes
      have hslash := Path.slash_not_mem_of_normal (List.mem_of_getLast? hlast)
      have hchars := Lossy.ascii_not_mem_chars Lossy.ascii_slash hslash
      intro hmem
      rw [String.toList_ofList] at hmem
      exact hchars (List.takeWhile_subset _ hmem)
  · cases hbytes

/-- The name of a case holds no slash. -/
theorem Case.slash_not_mem_name {path : Path} {c : Case} (h : Case.ofPath? path = some c) :
    '/' ∉ c.name.toList := by
  rw [Case.ofPath?, Option.map_eq_some_iff] at h
  obtain ⟨name, hname, rfl⟩ := h
  exact Case.slash_not_mem_of_nameOf? hname

/-! ### Paths of artifacts -/

/-- The label of a side of some accepted configuration. -/
def Config.AcceptedLabel (label : String) : Prop :=
  ∃ (c : Config) (side : Side), c.validate = .ok () ∧ (c.variant side).label = label

theorem Config.AcceptedLabel.proper {label : String} (h : Config.AcceptedLabel label) :
    ProperLabel label := by
  obtain ⟨c, side, hvalid, rfl⟩ := h
  exact (Config.labels_of_validate hvalid).1 side

/-- An artifact is an entry of the scratch directory. -/
theorem components_artifactPath (scratch : Path) {name label : String}
    (hname : '/' ∉ name.toList) (hlabel : ProperLabel label) :
    (artifactPath scratch name label).components
      = scratch.components ++ [.normal (Bytes.ofString (artifactName name label))] :=
  Path.components_join scratch (ordinaryName_artifactName hname hlabel)

/-- Two artifacts of one scratch directory with the same way to them belong to the same case and
the same side. -/
theorem names_of_components_artifactPath {scratch : Path} {n n' l l' : String}
    (hn : '/' ∉ n.toList) (hn' : '/' ∉ n'.toList) (hl : ProperLabel l) (hl' : ProperLabel l')
    (h : (artifactPath scratch n l).components = (artifactPath scratch n' l').components) :
    n = n' ∧ l = l' := by
  rw [components_artifactPath scratch hn hl, components_artifactPath scratch hn' hl',
    List.append_cancel_left_eq, List.singleton_inj, Component.normal.injEq] at h
  exact artifactName_injective hl hl' (Bytes.ofString_injective h)

/-- **Artifacts stay apart and in the scratch directory**: the steps on the way to an artifact tell
the case and the label, and they are those to the scratch directory and one more, into an entry
with an ordinary name. So the two sides of a case never share an artifact. -/
theorem artifactPath_separates (scratch : Path) {p p' : Path} {n n' l l' : String}
    (hn : Case.nameOf? p = some n) (hn' : Case.nameOf? p' = some n')
    (hl : Config.AcceptedLabel l) (hl' : Config.AcceptedLabel l') :
    ((artifactPath scratch n l).components = (artifactPath scratch n' l').components →
        n = n' ∧ l = l') ∧
      (∃ name, OrdinaryName name ∧ artifactPath scratch n l = scratch.join ⟨name⟩ ∧
        (artifactPath scratch n l).components = scratch.components ++ [.normal name]) ∧
      ∀ c : Config, c.validate = .ok () →
        (artifactPath scratch n c.candidate.label).components
          ≠ (artifactPath scratch n c.reference.label).components := by
  have hslash := Case.slash_not_mem_of_nameOf? hn
  refine ⟨names_of_components_artifactPath hslash (Case.slash_not_mem_of_nameOf? hn') hl.proper
      hl'.proper,
    ⟨_, ordinaryName_artifactName hslash hl.proper, rfl,
      components_artifactPath scratch hslash hl.proper⟩, fun c hvalid heq => ?_⟩
  obtain ⟨hlabels, hdistinct⟩ := Config.labels_of_validate hvalid
  exact hdistinct (names_of_components_artifactPath hslash hslash (hlabels .candidate)
    (hlabels .reference) heq).2

/-- A name that ends like the artifacts of another case, and the empty name of a dot file. -/
theorem artifactPath_separates_imitation :
    let scratch := Path.ofString "./temp//"
    Case.nameOf? (.ofString "cases/a_my.out.cl") = some "a_my" ∧
      Case.nameOf? (.ofString "cases/.cl") = some "" ∧
      Config.AcceptedLabel "my" ∧ Config.AcceptedLabel "ref" ∧
      (artifactPath scratch "a_my" "ref").components ≠ (artifactPath scratch "" "my").components ∧
      ∃ name, OrdinaryName name ∧ artifactPath scratch "a_my" "ref" = scratch.join ⟨name⟩ ∧
        (artifactPath scratch "a_my" "ref").components
          = [.current, .normal (Bytes.ofString "temp")] ++ [.normal name] := by
  intro scratch
  have hn : Case.nameOf? (.ofString "cases/a_my.out.cl") = some "a_my" := by decide
  have hn' : Case.nameOf? (.ofString "cases/.cl") = some "" := by decide
  have hl : Config.AcceptedLabel "my" := ⟨.conventional, .candidate, by decide, rfl⟩
  have hl' : Config.AcceptedLabel "ref" := ⟨.conventional, .reference, by decide, rfl⟩
  obtain ⟨hapart, hinside, -⟩ := artifactPath_separates scratch hn hn' hl' hl
  exact ⟨hn, hn', hl, hl', fun h => absurd (hapart h).2 (by decide), hinside⟩

end TwinRun
