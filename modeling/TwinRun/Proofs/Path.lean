import Mathlib.Data.List.Basic
import Mathlib.Data.List.TakeWhile
import TwinRun.Path
import TwinRun.Proofs.Text.Cuts

/-!
Names between slashes.

* `Bytes.splitOn_append_cons`: what is cut at a separator is cut on both sides of it.
* `Bytes.not_mem_of_mem_splitOn`: no item holds the separator.
* `Path.bytes_join`: how a path inside another one is written.
* `Path.components_join`: it takes one step more.
* `Path.extensionOf_eq_some`: what stands behind the last dot of a name.
* `Bytes.le_iff`: names are sorted as lists of bytes.
-/

namespace TwinRun

namespace Bytes

theorem splitOn_eq (sep : UInt8) (data : Bytes) : splitOn sep data = List.splitOn sep data :=
  Cuts.foldr_eq_splitOn (fun _ _ _ => rfl) data

theorem splitOn_ne_nil (sep : UInt8) (data : Bytes) : splitOn sep data ≠ [] :=
  splitOn_eq sep data ▸ List.splitOn_ne_nil sep data

/-- No item holds the separator. -/
theorem not_mem_of_mem_splitOn {sep : UInt8} {data piece : Bytes}
    (h : piece ∈ splitOn sep data) : sep ∉ piece :=
  Cuts.not_mem_of_mem_splitOn (splitOn_eq sep data ▸ h)

/-- Without separators there is one item. -/
theorem splitOn_eq_singleton {sep : UInt8} {data : Bytes} (h : sep ∉ data) :
    splitOn sep data = [data] := by
  rw [splitOn_eq, List.splitOn_eq_singleton h]

/-- Data is cut on both sides of a separator. -/
theorem splitOn_append_cons (sep : UInt8) (data more : Bytes) :
    splitOn sep (data ++ sep :: more) = splitOn sep data ++ splitOn sep more := by
  simp only [splitOn_eq, Cuts.splitOn_append_cons]

/-- The order of byte strings is that of lists. -/
theorem le_iff {a b : Bytes} : le a b = true ↔ a ≤ b := by
  induction a generalizing b with
  | nil => exact iff_of_true rfl (List.nil_le b)
  | cons x a ih =>
      cases b with
      | nil => simp [le]
      | cons y b =>
          rw [List.cons_le_cons_iff, le, Bool.or_eq_true, Bool.and_eq_true, decide_eq_true_iff,
            beq_iff_eq, ih]

end Bytes

/-- A name that a path may use for an entry of a directory. -/
structure OrdinaryName (name : Bytes) : Prop where
  ne_nil : name ≠ []
  ne_current : name ≠ Path.currentName
  ne_parent : name ≠ Path.parentName
  slash_not_mem : Bytes.slash ∉ name

instance (name : Bytes) : Decidable (OrdinaryName name) :=
  decidable_of_iff (name ≠ [] ∧ name ≠ Path.currentName ∧ name ≠ Path.parentName ∧
    Bytes.slash ∉ name) ⟨fun ⟨h₁, h₂, h₃, h₄⟩ => ⟨h₁, h₂, h₃, h₄⟩,
    fun h => ⟨h.ne_nil, h.ne_current, h.ne_parent, h.slash_not_mem⟩⟩

namespace Path

theorem isAbsolute_of_ordinary {a : Bytes} (ha : OrdinaryName a) :
    (Path.mk a).isAbsolute = false := by
  cases a with
  | nil => rfl
  | cons b a =>
      have hb : b ≠ Bytes.slash := fun h => ha.slash_not_mem (h ▸ List.mem_cons_self)
      simp [isAbsolute, hb]

theorem endsInSlash_iff {p : Path} : p.endsInSlash = true ↔ ∃ q, p.bytes = q ++ [Bytes.slash] := by
  rw [endsInSlash, beq_iff_eq, List.getLast?_eq_some_iff]

/-- An entry of a directory is written behind a slash, which the path of the directory may already
have. -/
theorem bytes_join {p : Path} (hp : p.bytes ≠ []) {a : Bytes} (ha : OrdinaryName a) :
    (∃ q, p.bytes = q ++ [Bytes.slash] ∧ (p.join ⟨a⟩).bytes = q ++ Bytes.slash :: a) ∨
      (p.endsInSlash = false ∧ (p.join ⟨a⟩).bytes = p.bytes ++ Bytes.slash :: a) := by
  rw [join, isAbsolute_of_ordinary ha, if_neg Bool.false_ne_true]
  cases hslash : p.endsInSlash with
  | true =>
      obtain ⟨q, hq⟩ := endsInSlash_iff.mp hslash
      exact .inl ⟨q, hq, by simp [hq]⟩
  | false => exact .inr ⟨rfl, by simp [hp]⟩

theorem isAbsolute_join {p : Path} (hp : p.bytes ≠ []) {a : Bytes} (ha : OrdinaryName a) :
    (p.join ⟨a⟩).isAbsolute = p.isAbsolute := by
  rcases bytes_join hp ha with ⟨q, hq, hjoin⟩ | ⟨-, hjoin⟩
  · rw [isAbsolute, hjoin, isAbsolute, hq]
    cases q <;> rfl
  · rw [isAbsolute, hjoin, isAbsolute]
    cases hbytes : p.bytes with
    | nil => exact absurd hbytes hp
    | cons b bs => rfl

/-- Behind an ordinary name no slash is left. -/
theorem getLast?_append_ne_slash {a : Bytes} (ha : OrdinaryName a) (q : Bytes) :
    (q ++ Bytes.slash :: a).getLast? ≠ some Bytes.slash := by
  rw [List.getLast?_append, List.getLast?_cons_of_ne_nil ha.ne_nil]
  intro h
  cases hlast : a.getLast? with
  | none => exact ha.ne_nil (List.getLast?_eq_none_iff.mp hlast)
  | some b =>
      rw [hlast, Option.some_or, Option.some_inj] at h
      exact ha.slash_not_mem (h ▸ List.mem_of_getLast? hlast)

/-- An entry of a directory does not end in a slash. -/
theorem endsInSlash_join {p : Path} (hp : p.bytes ≠ []) {a : Bytes} (ha : OrdinaryName a) :
    (p.join ⟨a⟩).endsInSlash = false := by
  rw [endsInSlash, beq_eq_false_iff_ne]
  rcases bytes_join hp ha with ⟨q, -, hjoin⟩ | ⟨-, hjoin⟩ <;> rw [hjoin]
  · exact getLast?_append_ne_slash ha q
  · exact getLast?_append_ne_slash ha p.bytes

/-! ### Steps -/

/-- An ordinary name stands for a step into an entry of that name. -/
theorem Component.ofName_ordinary {a : Bytes} (ha : OrdinaryName a) :
    Component.ofName a = some (.normal a) := by
  rw [Component.ofName, if_neg (not_or.mpr ⟨ha.ne_nil, ha.ne_current⟩), if_neg ha.ne_parent]

/-- Behind the names on the way to a directory stands the name of the entry, in place of the empty
name behind a last slash. -/
theorem splitOn_join {p : Path} (hp : p.bytes ≠ []) {a : Bytes} (ha : OrdinaryName a) :
    ∃ names last, names ≠ [] ∧ last.filterMap Component.ofName = [] ∧
      Bytes.splitOn Bytes.slash p.bytes = names ++ last ∧
      Bytes.splitOn Bytes.slash (p.join ⟨a⟩).bytes = names ++ [a] := by
  have hsingle := Bytes.splitOn_eq_singleton ha.slash_not_mem
  rcases bytes_join hp ha with ⟨q, hq, hjoin⟩ | ⟨-, hjoin⟩
  · refine ⟨Bytes.splitOn Bytes.slash q, [[]], Bytes.splitOn_ne_nil _ _, rfl, ?_, ?_⟩
    · rw [hq, Bytes.splitOn_append_cons]
      rfl
    · rw [hjoin, Bytes.splitOn_append_cons, hsingle]
  · refine ⟨Bytes.splitOn Bytes.slash p.bytes, [], Bytes.splitOn_ne_nil _ _, rfl, ?_, ?_⟩
    · rw [List.append_nil]
    · rw [hjoin, Bytes.splitOn_append_cons, hsingle]

/-- The way to an entry of a directory takes one step more than the way to the directory. -/
theorem components_join (p : Path) {a : Bytes} (ha : OrdinaryName a) :
    (p.join ⟨a⟩).components = p.components ++ [.normal a] := by
  have hname := Component.ofName_ordinary ha
  by_cases hp : p.bytes = []
  · have hjoin : p.join ⟨a⟩ = ⟨a⟩ := by
      rw [join, isAbsolute_of_ordinary ha, if_neg Bool.false_ne_true, if_pos (by simp [hp]), hp,
        List.nil_append]
    have hempty : p.components = [] := by
      rw [show p = ⟨[]⟩ from congrArg Path.mk hp]
      rfl
    rw [hjoin, hempty]
    unfold components
    rw [isAbsolute_of_ordinary ha, Bytes.splitOn_eq_singleton ha.slash_not_mem]
    simp [hname, ha.ne_current]
  · obtain ⟨names, last, hne, hlast, hold, hnew⟩ := splitOn_join hp ha
    have hhead : ∀ l, (names ++ l).head? = names.head? := fun l =>
      List.head?_append_of_ne_nil names hne
    unfold components
    simp only [isAbsolute_join hp ha, hold, hnew, hhead, List.filterMap_append, hlast]
    simp [hname]

/-- An entry of a directory has its own name. -/
theorem fileName?_join (p : Path) {a : Bytes} (ha : OrdinaryName a) :
    (p.join ⟨a⟩).fileName? = some a := by
  rw [fileName?, components_join p ha, List.getLast?_concat]

theorem extensionOf_of_dot {extension : Bytes} (hdot : Bytes.dot ∉ extension) (stem : Bytes) :
    extensionOf (stem ++ Bytes.dot :: extension) = if stem = [] then none else some extension := by
  have hplain : ∀ b ∈ extension.reverse, decide (b ≠ Bytes.dot) = true := by
    intro b hb
    refine decide_eq_true fun heq => hdot ?_
    rwa [heq, List.mem_reverse] at hb
  have hafter : (stem ++ Bytes.dot :: extension).reverse.takeWhile (· ≠ Bytes.dot)
      = extension.reverse := by
    rw [List.reverse_append, List.reverse_cons, List.append_assoc,
      List.takeWhile_append_of_pos hplain, List.singleton_append,
      List.takeWhile_cons_of_neg (by decide), List.append_nil]
  rw [extensionOf, hafter, List.length_append, List.length_cons, List.length_reverse,
    List.reverse_reverse]
  by_cases hstem : stem = []
  · rw [hstem, if_pos rfl, if_neg (by simp)]
  · have hpos := List.length_pos_iff.mpr hstem
    rw [if_neg hstem, if_pos (by omega)]

/-- A name without a dot has no extension. -/
theorem extensionOf_of_not_mem {name : Bytes} (hdot : Bytes.dot ∉ name) :
    extensionOf name = none := by
  have hafter : name.reverse.takeWhile (· ≠ Bytes.dot) = name.reverse := by
    rw [List.takeWhile_eq_self_iff]
    intro b hb
    refine decide_eq_true fun heq => hdot ?_
    rwa [heq, List.mem_reverse] at hb
  rw [extensionOf, hafter]
  simp

/-- The extension of a name stands behind its last dot, which does not come first. -/
theorem extensionOf_eq_some {name extension : Bytes} :
    extensionOf name = some extension ↔
      Bytes.dot ∉ extension ∧ ∃ stem, stem ≠ [] ∧ name = stem ++ Bytes.dot :: extension := by
  constructor
  · intro h
    by_cases hmem : Bytes.dot ∈ name
    · obtain ⟨after, before, hname, hdot⟩ :=
        List.eq_append_cons_of_mem (List.mem_reverse.mpr hmem)
      have hlast : name = before.reverse ++ Bytes.dot :: after.reverse := by
        rw [← List.reverse_reverse name, hname]
        simp
      rw [hlast, extensionOf_of_dot (by rwa [List.mem_reverse])] at h
      split at h
      · cases h
      · next hbefore =>
          obtain rfl := Option.some.inj h
          exact ⟨by rwa [List.mem_reverse], before.reverse, hbefore, hlast⟩
    · rw [extensionOf_of_not_mem hmem] at h
      cases h
  · rintro ⟨hdot, stem, hstem, rfl⟩
    rw [extensionOf_of_dot hdot, if_neg hstem]

end Path

end TwinRun
