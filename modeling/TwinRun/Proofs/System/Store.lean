import Mathlib.Data.List.Induction
import Mathlib.Data.List.Nodup
import TwinRun.Proofs.Path
import TwinRun.System.Files

/-!
The store of a tree of files.

Every change of the store is described by what it does to `Files.get?`, place by place.
`Files.WellFormed` is what the operations keep: one entry for every place, ordinary names, and a
directory above every entry.
-/

namespace TwinRun

/-! ### Lookups -/

section Lookup

variable {α β : Type} [BEq α] [LawfulBEq α]

/-- A change of the values changes what is looked up. -/
theorem lookup_map_snd (f : α → β → β) (l : List (α × β)) (a : α) :
    (l.map fun e => (e.1, f e.1 e.2)).lookup a = (l.lookup a).map (f a) := by
  induction l with
  | nil => rfl
  | cons e l ih =>
      obtain ⟨k, b⟩ := e
      rw [List.map_cons, List.lookup_cons, List.lookup_cons]
      cases hkey : a == k with
      | true => rw [beq_iff_eq.mp hkey]; rfl
      | false => exact ih

/-- Leaving out other keys does not change what is looked up. -/
theorem lookup_filter_key (p : α → Bool) (l : List (α × β)) (a : α) :
    (l.filter fun e => p e.1).lookup a = if p a then l.lookup a else none := by
  induction l with
  | nil => simp
  | cons e l ih =>
      obtain ⟨k, b⟩ := e
      rw [List.filter_cons, List.lookup_cons]
      cases hkey : a == k with
      | true =>
          obtain rfl := beq_iff_eq.mp hkey
          cases hp : p a <;> simp [hp, ih]
      | false =>
          cases hp : p k
          · simpa using ih
          · simpa [List.lookup_cons, hkey] using ih

/-- With distinct keys, what is looked up is what is there. -/
theorem lookup_eq_some_iff_mem {l : List (α × β)} (h : (l.map Prod.fst).Nodup) {a : α} {b : β} :
    l.lookup a = some b ↔ (a, b) ∈ l := by
  induction l with
  | nil => simp
  | cons e l ih =>
      obtain ⟨k, c⟩ := e
      obtain ⟨hk, hl⟩ := List.nodup_cons.mp h
      rw [List.lookup_cons, List.mem_cons]
      cases hkey : a == k with
      | true =>
          obtain rfl := beq_iff_eq.mp hkey
          have hnot : (a, b) ∉ l := fun hmem => hk (List.mem_map.mpr ⟨_, hmem, rfl⟩)
          simp [hnot, eq_comm]
      | false =>
          have hne : a ≠ k := fun heq => by simp [heq] at hkey
          rw [ih hl]
          simp [hne]

end Lookup

/-- Tells a file from others. -/
def FileNode.identity? : FileNode → Option Nat
  | .file k _ _ => some k
  | _ => none

namespace Files

/-! ### Looking at places -/

@[simp] theorem get?_nil (fs : Files) : fs.get? [] = some .directory := rfl

theorem get?_of_ne_nil {fs : Files} {x : Location} (hx : x ≠ []) :
    fs.get? x = fs.nodes.lookup x := if_neg hx

/-- The places outside a directory. -/
def outside (fs : Files) (l : Location) : Location → Option FileNode := fun x =>
  if l <+: x ∧ x ≠ l then none else fs.get? x

section Outside

variable {fs fs' : Files} {l x : Location}

theorem outside_self (fs : Files) (l : Location) : fs.outside l l = fs.get? l :=
  if_neg fun h => h.2 rfl

theorem outside_append (hx : x ≠ []) : fs.outside l (l ++ x) = none :=
  if_pos ⟨List.prefix_append l x, by simpa using hx⟩

/-- A tree of which nothing is left but the outside of a directory looks the same from there. -/
theorem outside_eq (h : ∀ x, fs'.get? x = fs.outside l x) : fs'.outside l = fs.outside l := by
  funext x
  rw [outside, h, outside]
  split <;> rfl

end Outside

/-- A new or replaced entry is found in its place, and nothing else changes. -/
theorem get?_put {fs : Files} {l : Location} (hl : l ≠ []) (n : FileNode) (x : Location) :
    (fs.put l n).get? x = if x = l then some n else fs.get? x := by
  by_cases hx : x = []
  · rw [hx, get?_nil, get?_nil, if_neg (Ne.symm hl)]
  rw [get?_of_ne_nil hx, get?_of_ne_nil hx, put]
  split
  · next hany =>
      have hmap : (fs.nodes.map fun e => if e.1 = l then (l, n) else e)
          = fs.nodes.map fun e => (e.1, if e.1 = l then n else e.2) := by
        refine List.map_congr_left fun e _ => ?_
        split
        · next h => rw [h]
        · rfl
      rw [hmap, lookup_map_snd (fun k b => if k = l then n else b)]
      split
      · next heq =>
          obtain ⟨e, he, hkey⟩ := List.any_eq_true.mp hany
          have hsome : (fs.nodes.lookup x).isSome := by
            rw [List.lookup_isSome_iff]
            exact ⟨e, he, by rw [heq, beq_iff_eq, ← beq_iff_eq.mp hkey]⟩
          obtain ⟨b, hb⟩ := Option.isSome_iff_exists.mp hsome
          rw [hb]
          rfl
      · cases fs.nodes.lookup x <;> rfl
  · next hany =>
      rw [List.lookup_append]
      have hnone : fs.nodes.lookup l = none := by
        rw [List.lookup_eq_none_iff]
        intro e he
        simp only [List.any_eq_true, not_exists, not_and] at hany
        exact bne_iff_ne.mpr fun h => hany e he (by simp [h])
      split
      · next heq => rw [heq, hnone]; simp
      · next hne =>
          have hbeq : (x == l) = false := by simpa using hne
          simp [List.lookup_cons, hbeq]

@[simp] theorem nextIdentity_put (fs : Files) (l : Location) (n : FileNode) :
    (fs.put l n).nextIdentity = fs.nextIdentity := by
  unfold put
  split <;> rfl

/-- Where nothing is, an entry is put behind the others. -/
theorem nodes_put_of_free {fs : Files} {l : Location} (hl : l ≠ []) (hfree : fs.get? l = none)
    (n : FileNode) : (fs.put l n).nodes = fs.nodes ++ [(l, n)] := by
  rw [get?_of_ne_nil hl, List.lookup_eq_none_iff] at hfree
  rw [put, if_neg]
  intro hany
  obtain ⟨e, he, hkey⟩ := List.any_eq_true.mp hany
  exact bne_iff_ne.mp (hfree e he) (beq_iff_eq.mp hkey).symm

/-- An erased place is gone with everything below it, and nothing else changes. -/
theorem get?_erase {fs : Files} {l : Location} (hl : l ≠ []) (x : Location) :
    (fs.erase l).get? x = if l <+: x then none else fs.get? x := by
  by_cases hx : x = []
  · rw [hx, get?_nil, get?_nil, if_neg fun h => hl (List.prefix_nil.mp h)]
  rw [get?_of_ne_nil hx, get?_of_ne_nil hx, erase,
    lookup_filter_key (fun k => !l.isPrefixOf k)]
  by_cases h : l <+: x
  · rw [if_pos h, if_neg (by simp [h])]
  · rw [if_neg h, Bool.eq_false_iff.mpr (mt List.isPrefixOf_iff_prefix.mp h)]
    rfl

/-- What a change of the content of a file makes of an entry. -/
def modified (identity : Nat) (f : Bytes → Bytes) : FileNode → FileNode
  | .file k content x => if k = identity then .file k (f content) x else .file k content x
  | n => n

theorem nodes_modify (fs : Files) (identity : Nat) (f : Bytes → Bytes) :
    (fs.modify identity f).nodes = fs.nodes.map fun e => (e.1, modified identity f e.2) := by
  refine List.map_congr_left fun e _ => ?_
  obtain ⟨l, n⟩ := e
  cases n with
  | file k content x =>
      by_cases h : k = identity
      · simp only [modified, if_pos h]
      · simp only [modified, if_neg h]
  | _ => rfl

theorem get?_modify (fs : Files) (identity : Nat) (f : Bytes → Bytes) (x : Location) :
    (fs.modify identity f).get? x = (fs.get? x).map (modified identity f) := by
  by_cases hx : x = []
  · rw [hx]
    rfl
  · rw [get?_of_ne_nil hx, get?_of_ne_nil hx, nodes_modify,
      lookup_map_snd fun _ => modified identity f]

/-- The content of a file changes as it is told to. -/
theorem content?_modify (fs : Files) (identity : Nat) (f : Bytes → Bytes) :
    (fs.modify identity f).content? identity = (fs.content? identity).map f := by
  rw [content?, content?, nodes_modify]
  induction fs.nodes with
  | nil => rfl
  | cons entry nodes ih =>
      obtain ⟨x, n⟩ := entry
      rw [List.map_cons, List.findSome?_cons, List.findSome?_cons]
      cases n with
      | file k content e =>
          by_cases hk : k = identity
          · simp [modified, hk]
          · simpa [modified, hk] using ih
      | _ => exact ih

@[simp] theorem get?_moveTo (fs : Files) (h : Handle) (place : Nat) (x : Location) :
    (fs.moveTo h place).get? x = fs.get? x := rfl

/-- An open file at another place. -/
def movedTo (place : Nat) (o : OpenFile) : OpenFile := { o with place }

/-- An open file keeps everything but its place when it is moved. -/
theorem lookup_moveTo (fs : Files) {h : Handle} {o : OpenFile} (ho : fs.opened.lookup h = some o)
    (place : Nat) : (fs.moveTo h place).opened.lookup h = some { o with place } := by
  have hmap : (fs.moveTo h place).opened
      = fs.opened.map fun e => (e.1, if e.1 = h then movedTo place e.2 else e.2) := by
    refine List.map_congr_left fun e _ => ?_
    split
    · next heq => rw [heq]; rfl
    · rfl
  rw [hmap, lookup_map_snd fun k o => if k = h then movedTo place o else o, ho, Option.map_some,
    if_pos rfl]
  rfl

/-- The name that a place has in a directory, if it is right below it. -/
def nameIn? (l x : Location) : Option Bytes :=
  if x ≠ [] ∧ x.dropLast = l then x.getLast? else none

theorem nameIn?_eq_some {l x : Location} {a : Bytes} : nameIn? l x = some a ↔ x = l ++ [a] := by
  rw [nameIn?]
  constructor
  · intro hname
    split at hname
    · next hparent =>
        obtain ⟨y, rfl⟩ := List.getLast?_eq_some_iff.mp hname
        rw [← hparent.2, List.dropLast_concat]
    · cases hname
  · rintro rfl
    simp

theorem names_eq (fs : Files) (l : Location) :
    fs.names l = (fs.nodes.map Prod.fst).filterMap (nameIn? l) := by
  rw [names, List.filterMap_map]
  rfl

/-- The names in a directory are those of its entries. -/
theorem mem_names {fs : Files} {l : Location} {a : Bytes} :
    a ∈ fs.names l ↔ ∃ n, (l ++ [a], n) ∈ fs.nodes := by
  simp only [names_eq, List.mem_filterMap, nameIn?_eq_some, exists_eq_right, List.mem_map,
    Prod.exists, exists_and_right]

/-- No name stands twice in a directory. -/
theorem nodup_names {fs : Files} (h : (fs.nodes.map Prod.fst).Nodup) (l : Location) :
    (fs.names l).Nodup := by
  rw [names_eq]
  refine h.filterMap fun x y a hx hy => ?_
  rw [nameIn?_eq_some.mp hx, nameIn?_eq_some.mp hy]

/-! ### Files in one place -/

section Sole

variable {fs : Files}

/-- The file with this identity is in no other place. -/
def Sole (fs : Files) (x : Location) (k : Nat) : Prop :=
  ∀ y c e, fs.get? y = some (.file k c e) → y = x

/-- A file stays the file it is when contents are changed. -/
theorem modified_eq_file {k i : Nat} {f : Bytes → Bytes} {n : FileNode} {c : Bytes} {e : Bool}
    (h : modified k f n = .file i c e) : ∃ c', n = .file i c' e := by
  cases n with
  | file i' c' e' =>
      rw [modified] at h
      split at h <;> cases h <;> exact ⟨_, rfl⟩
  | _ => cases h

theorem Sole.modify {x : Location} {i : Nat} (h : fs.Sole x i) (k : Nat) (f : Bytes → Bytes) :
    (fs.modify k f).Sole x i := by
  intro y c e hy
  rw [get?_modify, Option.map_eq_some_iff] at hy
  obtain ⟨n, hn, heq⟩ := hy
  obtain ⟨c', rfl⟩ := modified_eq_file heq
  exact h y c' e hn

/-- A change of the content of a file in one place changes no other place. -/
theorem get?_modify_of_ne {x y : Location} {k : Nat} (hsole : fs.Sole x k) (hy : y ≠ x)
    (f : Bytes → Bytes) : (fs.modify k f).get? y = fs.get? y := by
  rw [get?_modify]
  cases hn : fs.get? y with
  | none => rfl
  | some n =>
      cases n with
      | file k' c' e' =>
          have hk : k' ≠ k := by
            rintro rfl
            exact hy (hsole y c' e' hn)
          rw [Option.map_some, modified, if_neg hk]
      | _ => rfl

theorem get?_modify_self {x : Location} {k : Nat} {c : Bytes} {e : Bool}
    (hx : fs.get? x = some (.file k c e)) (f : Bytes → Bytes) :
    (fs.modify k f).get? x = some (.file k (f c) e) := by
  rw [get?_modify, hx, Option.map_some, modified, if_pos rfl]

end Sole

/-! ### Well-formed trees -/

/-- A tree as the operations make it. A file may be in several places. -/
structure WellFormed (fs : Files) : Prop where
  /-- Every place has one entry. -/
  keys : (fs.nodes.map Prod.fst).Nodup
  /-- The root has none. -/
  ne_nil : ∀ {x n}, (x, n) ∈ fs.nodes → x ≠ []
  identity_lt : ∀ {x k c e}, (x, .file k c e) ∈ fs.nodes → k < fs.nextIdentity
  ordinary : ∀ {x n}, (x, n) ∈ fs.nodes → ∀ a ∈ x, OrdinaryName a
  /-- Every entry is in a directory. -/
  parent : ∀ {x a n}, (x ++ [a], n) ∈ fs.nodes → fs.get? x = some .directory

namespace WellFormed

variable {fs : Files}

theorem mem_nodes (h : fs.WellFormed) {x : Location} (hx : x ≠ []) {n : FileNode} :
    (x, n) ∈ fs.nodes ↔ fs.get? x = some n := by
  rw [get?_of_ne_nil hx, lookup_eq_some_iff_mem h.keys]

/-- A file is never the root. -/
theorem ne_nil_of_file {x : Location} {k : Nat} {c : Bytes} {e : Bool}
    (hx : fs.get? x = some (.file k c e)) : x ≠ [] := by
  rintro rfl
  cases hx

/-- Whether a tree is well-formed can be seen entry by entry. -/
theorem iff_entries : fs.WellFormed ↔ (fs.nodes.map Prod.fst).Nodup ∧ ∀ e ∈ fs.nodes,
    e.1 ≠ [] ∧ (∀ k ∈ e.2.identity?, k < fs.nextIdentity) ∧ (∀ a ∈ e.1, OrdinaryName a) ∧
      fs.get? e.1.dropLast = some .directory := by
  constructor
  · intro h
    refine ⟨h.keys, fun ⟨x, n⟩ hx => ⟨h.ne_nil hx, fun k hk => ?_, h.ordinary hx, ?_⟩⟩
    · cases n with
      | file i c e => cases hk; exact h.identity_lt hx
      | _ => cases hk
    · refine h.parent (a := x.getLast (h.ne_nil hx)) (n := n) ?_
      rwa [List.dropLast_append_getLast]
  · rintro ⟨hkeys, h⟩
    refine ⟨hkeys, fun hx => (h _ hx).1, fun hx => (h _ hx).2.1 _ rfl, fun hx => (h _ hx).2.2.1,
      fun {x a n} hx => ?_⟩
    have hparent := (h _ hx).2.2.2
    rwa [List.dropLast_concat] at hparent

instance : Decidable fs.WellFormed := decidable_of_iff' _ WellFormed.iff_entries

/-- Below a place where nothing is, there is nothing. -/
theorem get?_append_of_none (h : fs.WellFormed) {x : Location} (hx : fs.get? x = none)
    (y : Location) : fs.get? (x ++ y) = none := by
  induction y using List.reverseRecOn with
  | nil => rwa [List.append_nil]
  | append_singleton y a ih =>
      cases hn : fs.get? (x ++ (y ++ [a])) with
      | none => rfl
      | some n =>
          rw [← List.append_assoc] at hn
          rw [h.parent ((h.mem_nodes (by simp)).mpr hn)] at ih
          cases ih

/-- A file in some place has a content. -/
theorem isSome_content? (h : fs.WellFormed) {x : Location} {k : Nat} {c : Bytes} {e : Bool}
    (hx : fs.get? x = some (.file k c e)) : (fs.content? k).isSome := by
  rw [content?, List.findSome?_isSome_iff]
  exact ⟨_, (h.mem_nodes (ne_nil_of_file hx)).mpr hx, by simp⟩

/-- The content of a file in one place is found by its identity. -/
theorem content?_eq (h : fs.WellFormed) {x : Location} {k : Nat} {c : Bytes} {e : Bool}
    (hx : fs.get? x = some (.file k c e)) (hsole : fs.Sole x k) : fs.content? k = some c := by
  have hmem := (h.mem_nodes (ne_nil_of_file hx)).mpr hx
  have hunique : ∀ y c' e', (y, FileNode.file k c' e') ∈ fs.nodes → c' = c := by
    intro y c' e' hy
    have hplace := (h.mem_nodes (h.ne_nil hy)).mp hy
    obtain rfl := hsole y c' e' hplace
    rw [hx] at hplace
    cases hplace
    rfl
  rw [content?]
  -- The first entry with this identity may stand elsewhere in the list, but not in the tree.
  cases hfind : fs.nodes.findSome? _ with
  | none =>
      have := List.findSome?_eq_none_iff.mp hfind _ hmem
      simp at this
  | some c' =>
      obtain ⟨⟨y, n⟩, hy, hn⟩ := List.exists_of_findSome?_eq_some hfind
      cases n with
      | file k' c'' e' =>
          simp only at hn
          split at hn
          · next heq =>
              subst heq
              cases hn
              rw [hunique y c' e' hy]
          · cases hn
      | _ => cases hn

/-- Changing the content of files keeps the tree well-formed. -/
theorem modify (h : fs.WellFormed) (k : Nat) (f : Bytes → Bytes) : (fs.modify k f).WellFormed := by
  have hmem : ∀ {x n}, (x, n) ∈ (fs.modify k f).nodes →
      ∃ n', (x, n') ∈ fs.nodes ∧ modified k f n' = n := by
    intro x n hx
    rw [nodes_modify] at hx
    obtain ⟨⟨y, n'⟩, hy, heq⟩ := List.mem_map.mp hx
    cases heq
    exact ⟨n', hy, rfl⟩
  refine ⟨?_, ?_, ?_, ?_, ?_⟩
  · rw [nodes_modify, List.map_map]
    exact h.keys
  · intro x n hx
    obtain ⟨n', hn', -⟩ := hmem hx
    exact h.ne_nil hn'
  · intro x i c e hx
    obtain ⟨n, hn, heq⟩ := hmem hx
    obtain ⟨c', rfl⟩ := modified_eq_file heq
    exact h.identity_lt hn
  · intro x n hx
    obtain ⟨n', hn', -⟩ := hmem hx
    exact h.ordinary hn'
  · intro x a n hx
    obtain ⟨n', hn', -⟩ := hmem hx
    rw [get?_modify, h.parent hn']
    rfl

/-- Erasing a place keeps the tree well-formed. -/
theorem erase (h : fs.WellFormed) (l : Location) : (fs.erase l).WellFormed := by
  have hmem : ∀ {e}, e ∈ (fs.erase l).nodes → e ∈ fs.nodes ∧ ¬ l <+: e.1 := by
    intro e he
    obtain ⟨he, hkept⟩ := List.mem_filter.mp he
    exact ⟨he, fun hp => by simp [List.isPrefixOf_iff_prefix.mpr hp] at hkept⟩
  refine ⟨h.keys.sublist (List.filter_sublist.map _), fun hx => h.ne_nil (hmem hx).1,
    fun hx => h.identity_lt (hmem hx).1, fun hx => h.ordinary (hmem hx).1, ?_⟩
  -- The directory of an entry that is left is not below `l` either, or the entry would be.
  intro x a n hx
  obtain ⟨hx, hout⟩ := hmem hx
  have hl : l ≠ [] := by
    rintro rfl
    exact hout List.nil_prefix
  rw [get?_erase hl, if_neg fun hp => hout (hp.trans (List.prefix_append x [a])), h.parent hx]

/-- A new entry of a directory, under an ordinary name, keeps the tree well-formed. -/
theorem insert (h : fs.WellFormed) {fs' : Files} {y : Location} {a : Bytes} {n : FileNode}
    (hdir : fs.get? y = some .directory) (hfree : fs.get? (y ++ [a]) = none)
    (ha : OrdinaryName a) (hnodes : fs'.nodes = fs.nodes ++ [(y ++ [a], n)])
    (hnext : fs.nextIdentity ≤ fs'.nextIdentity)
    (hfile : ∀ k c e, n = .file k c e → k < fs'.nextIdentity) :
    fs'.WellFormed := by
  have hne : y ++ [a] ≠ [] := by simp
  have hnew : y ++ [a] ∉ fs.nodes.map Prod.fst := by
    intro hmem
    obtain ⟨⟨x, n'⟩, hx, rfl⟩ := List.mem_map.mp hmem
    rw [(h.mem_nodes hne).mp hx] at hfree
    cases hfree
  have hget : ∀ x, fs.get? x = some .directory → fs'.get? x = some .directory := by
    intro x hx
    by_cases hxnil : x = []
    · rw [hxnil, get?_nil]
    · rw [get?_of_ne_nil hxnil] at hx ⊢
      rw [hnodes, List.lookup_append, hx]
      rfl
  refine ⟨?_, ?_, ?_, ?_, ?_⟩
  · rw [hnodes, List.map_append, List.map_singleton]
    exact h.keys.append (List.nodup_singleton _) (List.disjoint_singleton.mpr hnew)
  · intro x n' hx
    rw [hnodes, List.mem_append, List.mem_singleton] at hx
    rcases hx with hx | hx
    · exact h.ne_nil hx
    · cases hx
      exact hne
  · intro x k c e hx
    rw [hnodes, List.mem_append, List.mem_singleton] at hx
    rcases hx with hx | hx
    · exact Nat.lt_of_lt_of_le (h.identity_lt hx) hnext
    · cases hx
      exact hfile k c e rfl
  · intro x n' hx
    rw [hnodes, List.mem_append, List.mem_singleton] at hx
    rcases hx with hx | hx
    · exact h.ordinary hx
    · cases hx
      intro b hb
      rcases List.mem_append.mp hb with hb | hb
      · exact h.ordinary ((h.mem_nodes (List.ne_nil_of_mem hb)).mpr hdir) b hb
      · rwa [List.mem_singleton.mp hb]
  · intro x b n' hx
    rw [hnodes, List.mem_append, List.mem_singleton] at hx
    rcases hx with hx | hx
    · exact hget x (h.parent hx)
    · obtain ⟨rfl, -⟩ := List.append_inj' (congrArg Prod.fst hx) rfl
      exact hget x hdir

theorem attach (h : fs.WellFormed) (o : OpenFile) : (fs.attach o).1.WellFormed :=
  ⟨h.keys, h.ne_nil, h.identity_lt, h.ordinary, h.parent⟩

theorem moveTo (h : fs.WellFormed) (handle : Handle) (place : Nat) :
    (fs.moveTo handle place).WellFormed :=
  ⟨h.keys, h.ne_nil, h.identity_lt, h.ordinary, h.parent⟩

end WellFormed

end Files

end TwinRun
