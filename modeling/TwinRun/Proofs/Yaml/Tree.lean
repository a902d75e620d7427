import Mathlib
import TwinRun.Config.Yaml

/-!
Documents as trees.

A tree is a node without aliases whose mappings have different strings as keys.

* `Node.string?`, `Node.valueAt?`: what a tree says, by key.
* `IsValue`: what a tree means where any kind of value may stand.
* `Spells`: a node with aliases and the tree that it stands for. It counts the aliases that a walk
  through the whole tree follows, since no more than a certain number may be followed.
* `Itemwise.fields`: a record that was read from a mapping has under each key what the mapping has
  there, and what the entries under different keys cost is no more than what all of them cost.
-/

namespace TwinRun.Yaml

/-! ### Strings -/

namespace Node

def text? : Node → Option String
  | .scalar text _ _ => some text
  | _ => none

/-- The string that a node means where any kind of value may stand. -/
def string? : Node → Option String
  | .scalar text style tag => (scalarValue? text style tag).bind Config.textValue?
  | _ => none

end Node

theorem textValue?_eq_some {v : Value} {s : String} :
    Config.textValue? v = some s ↔ v = .text s := by
  cases v <;> simp [Config.textValue?]

theorem integer?_cases {cs : List Char} {v : Value} (h : integer? cs = some (some v)) :
    v = .other ∨ ∃ n, v = .natural n := by
  rw [integer?] at h
  repeat' split at h
  all_goals simp at h
  · exact .inr ⟨_, h.symm⟩
  · exact .inl h.symm

/-- A plain scalar is its own text, a natural number or something else, but no collection. -/
theorem plainValue?_cases {text : String} {v : Value} (h : plainValue? text = some v) :
    v = .text text ∨ v = .other ∨ ∃ n, v = .natural n := by
  rw [plainValue?] at h
  split at h
  · exact .inr (.inl (Option.some.inj h).symm)
  split at h
  case h_1 hinteger =>
    subst h
    exact .inr (integer?_cases hinteger)
  case h_2 =>
    split at h
    · exact .inr (.inl (Option.some.inj h).symm)
    · exact .inl (Option.some.inj h).symm

/-- So is every scalar. -/
theorem scalarValue?_cases {text : String} {style : ScalarStyle} {tag : Option String} {v : Value}
    (h : scalarValue? text style tag = some v) :
    v = .text text ∨ v = .other ∨ ∃ n, v = .natural n := by
  have hother : ∀ {holds : Bool}, (if holds then some Value.other else none) = some v →
      v = .other := by
    intro holds h
    cases holds <;> cases h
    rfl
  cases tag with
  | none =>
      rw [scalarValue?] at h
      split at h
      · exact plainValue?_cases h
      · exact .inl (Option.some.inj h).symm
  | some tag =>
      rw [scalarValue?] at h
      split at h
      · cases h
      split at h
      · exact .inr (.inl (hother h))
      split at h
      · exact .inr (integer?_cases (Option.join_eq_some_iff.mp h))
      split at h
      · exact .inr (.inl (hother h))
      split at h
      · exact .inr (.inl (hother h))
      · exact .inl (Option.some.inj h).symm

namespace Node

theorem text?_of_string? {n : Node} {s : String} (h : n.string? = some s) : n.text? = some s := by
  match n, h with
  | .scalar text style tag, h =>
      obtain ⟨v, hv, hs⟩ := Option.bind_eq_some_iff.mp h
      rw [textValue?_eq_some.mp hs] at hv
      rcases scalarValue?_cases hv with htext | hother | ⟨n, hnatural⟩
      · exact congrArg some (Value.text.inj htext).symm
      · cases hother
      · cases hnatural

/-! ### Trees -/

def entries : Node → List (Node × Node)
  | .mapping entries _ => entries
  | _ => []

def IsPath (t : Node) (p : Path) : Prop := ∃ s, t.text? = some s ∧ p = .ofString s

def isNothing : Node → Bool
  | .scalar text style _ => text = "" ∧ style = .plain
  | _ => false

theorem isNothing_iff {n : Node} : n.isNothing ↔ ∃ tag, n = .scalar "" .plain tag := by
  cases n <;> simp [isNothing]

/-- The items of a sequence; where nothing stands there are none. -/
def items? : Node → Option (List Node)
  | .sequence items _ => some items
  | n => if n.isNothing then some [] else none

def isRecord : Node → Bool
  | .mapping _ _ => true
  | n => n.isNothing

/-- What stands in a mapping under a key. -/
def valueAt? (t : Node) (key : String) : Option Node :=
  (t.entries.find? (·.1.text? == some key)).map (·.2)

/-- A node without aliases in which the keys of each mapping are strings, no two the same. -/
inductive Tree : Node → Prop
  | scalar (text : String) (style : ScalarStyle) (tag : Option String) :
      Tree (.scalar text style tag)
  | sequence {items : List Node} (h : ∀ t ∈ items, Tree t) (tag : Option String) :
      Tree (.sequence items tag)
  | mapping {entries : List (Node × Node)} (hkeys : ∀ e ∈ entries, e.1.string?.isSome)
      (hnodup : (entries.map (·.1.text?)).Nodup) (h : ∀ e ∈ entries, Tree e.2)
      (tag : Option String) : Tree (.mapping entries tag)

namespace Tree

variable {t v : Node} {key : String}

theorem isSome_string? (ht : t.Tree) : ∀ e ∈ t.entries, e.1.string?.isSome := by
  cases ht with
  | scalar => simp [entries]
  | sequence => simp [entries]
  | mapping hkeys => exact hkeys

theorem nodup (ht : t.Tree) : (t.entries.map (·.1.text?)).Nodup := by
  cases ht with
  | scalar => simp [entries]
  | sequence => simp [entries]
  | mapping _ hnodup => exact hnodup

theorem of_mem_entries (ht : t.Tree) : ∀ e ∈ t.entries, e.2.Tree := by
  cases ht with
  | scalar => simp [entries]
  | sequence => simp [entries]
  | mapping _ _ h => exact h

theorem valueAt? (ht : t.Tree) (h : t.valueAt? key = some v) : v.Tree := by
  obtain ⟨e, he, rfl⟩ := Option.map_eq_some_iff.mp h
  exact ht.of_mem_entries e (List.mem_of_find?_eq_some he)

end Tree

end Node

/-! ### Values -/

section Values

variable {depth : Nat} {t : Node} {v : Value}

/-- What a tree of at most this depth means where any kind of value may stand. -/
def IsValue : (depth : Nat) → Node → Value → Prop
  | _, .scalar text style tag, v => scalarValue? text style tag = some v
  | depth + 1, .sequence items tag, v =>
      ¬ tag.any isLocalTag ∧ ∃ vs, List.Forall₂ (IsValue depth) items vs ∧ v = .sequence vs
  | depth + 1, .mapping entries tag, v =>
      ¬ tag.any isLocalTag ∧ ∃ vs,
        List.Forall₂ (fun e v => IsValue depth e.1 v.1 ∧ IsValue depth e.2 v.2) entries vs ∧
          v = .mapping vs
  | _, _, _ => False

theorem isValue_scalar {depth : Nat} {text : String} {style : ScalarStyle} {tag : Option String}
    {v : Value} :
    IsValue depth (.scalar text style tag) v ↔ scalarValue? text style tag = some v := by
  cases depth <;> rfl

theorem string?_of_isValue (h : IsValue depth t v) : t.string? = Config.textValue? v := by
  match depth, t, h with
  | _, .scalar text style tag, h => simp [Node.string?, isValue_scalar.mp h]
  | _ + 1, .sequence items tag, ⟨_, vs, _, hv⟩ => rw [hv]; rfl
  | _ + 1, .mapping entries tag, ⟨_, vs, _, hv⟩ => rw [hv]; rfl
  | _ + 1, .alias anchor, h => cases h

/-- A mapping of values is known from its entries. -/
theorem entries_of_isValue {vs : List (Value × Value)} (h : IsValue depth t (.mapping vs)) :
    ∃ depth, List.Forall₂ (fun e v => IsValue depth e.1 v.1 ∧ IsValue depth e.2 v.2)
      t.entries vs := by
  match depth, t, h with
  | _, .scalar text style tag, h =>
      rcases scalarValue?_cases (isValue_scalar.mp h) with h | h | ⟨n, h⟩ <;> cases h
  | _ + 1, .sequence items tag, ⟨_, _, _, hv⟩ => cases hv
  | depth + 1, .mapping entries tag, ⟨_, vs, hentries, hv⟩ =>
      cases hv
      exact ⟨depth, hentries⟩
  | _ + 1, .alias anchor, h => cases h

/-- A string is a value at any depth. -/
theorem isValue_of_string? {s : String} (h : t.string? = some s) : IsValue depth t (.text s) := by
  match t, h with
  | .scalar text style tag, h =>
      obtain ⟨v, hv, hs⟩ := Option.bind_eq_some_iff.mp h
      rw [textValue?_eq_some.mp hs] at hv
      exact isValue_scalar.mpr hv

end Values

/-! ### Lists, item by item -/

section Itemwise

variable {α β : Type}

/-- Two lists whose items belong together in order. Each pair of items has a cost, and `k` is what
all of them cost. -/
inductive Itemwise (R : Nat → α → β → Prop) : Nat → List α → List β → Prop
  | nil : Itemwise R 0 [] []
  | cons {i j : Nat} {a : α} {b : β} {as : List α} {bs : List β} (h : R i a b)
      (hrest : Itemwise R j as bs) : Itemwise R (i + j) (a :: as) (b :: bs)

/-- Two pairs whose parts belong together. -/
inductive Both (R : Nat → α → β → Prop) : Nat → α × α → β × β → Prop
  | mk {i j : Nat} {a a' : α} {b b' : β} (h : R i a b) (h' : R j a' b') :
      Both R (i + j) (a, a') (b, b')

/-- A named value and the entry that it was read from. -/
def Named (R : Nat → α → Node → Prop) (k : Nat) (r : String × α) (e : Node × Node) : Prop :=
  e.1.text? = some r.1 ∧ R k r.2 e.2

/-- What a record has under a key: nothing, or one value. -/
inductive Field (R : Nat → α → Node → Prop) (k : Nat) (record : List (String × α)) (key : String) :
    Option Node → Prop
  | absent (h : record.filter (·.1 == key) = []) : Field R k record key none
  | present {a : α} {v : Node} (h : record.filter (·.1 == key) = [(key, a)]) (ha : R k a v) :
      Field R k record key (some v)

/-- The costs of the fields of a record: those under different keys cost no more than `k`. -/
structure Fields (R : Nat → α → Node → Prop) (k : Nat) (record : List (String × α)) (t : Node)
    (cost : String → Nat) : Prop where
  sum_le : ∀ {keys : List String}, keys.Nodup → (keys.map cost).sum ≤ k
  field : ∀ key, Field R (cost key) record key (t.valueAt? key)

variable {R : Nat → α → Node → Prop}

/-- A value that has no name yet comes to the front of a record. -/
theorem Field.cons {k : Nat} {r : String × α} {record : List (String × α)} {key : String}
    {found : Option Node} (h : Field R k record key found) (hne : r.1 ≠ key) :
    Field R k (r :: record) key found := by
  have hfilter : (r :: record).filter (·.1 == key) = record.filter (·.1 == key) :=
    List.filter_cons_of_neg (by simpa using hne)
  cases h with
  | absent h => exact .absent (hfilter.trans h)
  | present h ha => exact .present (hfilter.trans h) ha

/-- One cost more, under a key that had none before. -/
theorem sum_map_update_le {cost : String → Nat} {i j : Nat} {name : String}
    (h : ∀ {keys : List String}, keys.Nodup → (keys.map cost).sum ≤ j) {keys : List String}
    (hkeys : keys.Nodup) :
    (keys.map fun key => if key = name then i else cost key).sum ≤ i + j := by
  have hother : ∀ {others : List String}, name ∉ others →
      others.map (fun key => if key = name then i else cost key) = others.map cost := by
    intro others hnot
    refine List.map_congr_left fun key hkey => if_neg ?_
    rintro rfl
    exact hnot hkey
  by_cases hname : name ∈ keys
  · have hperm := (List.perm_cons_erase hname).map fun key => if key = name then i else cost key
    have hrest := h (hkeys.erase name)
    rw [hperm.sum_nat, List.map_cons, List.sum_cons, if_pos rfl, hother (hkeys.not_mem_erase)]
    omega
  · have hall := h hkeys
    rw [hother hname]
    omega

/-- A record has under each key what the mapping has there that it was read from. -/
theorem Itemwise.fields {k : Nat} {record : List (String × α)} {t : Node}
    (h : Itemwise (Named R) k record t.entries) (ht : t.Tree) :
    ∃ cost, Fields R k record t cost := by
  have hnodup := ht.nodup
  suffices ∃ cost : String → Nat, (∀ {keys : List String}, keys.Nodup → (keys.map cost).sum ≤ k) ∧
      ∀ key, Field R (cost key) record key
        ((t.entries.find? (·.1.text? == some key)).map (·.2)) by
    obtain ⟨cost, hsum, hfield⟩ := this
    exact ⟨cost, hsum, hfield⟩
  generalize t.entries = entries at h hnodup
  induction h with
  | nil => exact ⟨fun _ => 0, by simp, fun key => .absent rfl⟩
  | @cons i j r e record entries hr _ ih =>
      obtain ⟨hname, hr⟩ := hr
      obtain ⟨hnot, hnodup⟩ := List.nodup_cons.mp hnodup
      obtain ⟨cost, hsum, hfield⟩ := ih hnodup
      refine ⟨fun key => if key = r.1 then i else cost key, sum_map_update_le hsum, fun key => ?_⟩
      dsimp only
      by_cases hkey : key = r.1
      · subst hkey
        -- No other entry has this name.
        have hnone : entries.find? (·.1.text? == some r.1) = none := by
          rw [List.find?_eq_none]
          intro e' he' h
          exact hnot (List.mem_map.mpr ⟨e', he', (beq_iff_eq.mp h).trans hname.symm⟩)
        have habsent := hfield r.1
        rw [hnone] at habsent
        obtain ⟨hnil⟩ := habsent
        rw [if_pos rfl, List.find?_cons_of_pos (by simp [hname])]
        refine .present (a := r.2) ?_ hr
        rw [List.filter_cons_of_pos (by simp), hnil]
      · rw [if_neg hkey, List.find?_cons_of_neg (by simpa [hname] using Ne.symm hkey)]
        exact (hfield key).cons (Ne.symm hkey)

end Itemwise

/-! ### Aliases -/

/-- A node stands for a tree, aliases being replaced by what they stand for. An anchor is never
given to an alias. Going through the whole tree follows `k` aliases. -/
inductive Spells (anchors : List (Nat × Node)) : Nat → Node → Node → Prop
  | scalar (text : String) (style : ScalarStyle) (tag : Option String) :
      Spells anchors 0 (.scalar text style tag) (.scalar text style tag)
  | sequence {k : Nat} {items ts : List Node} (h : Itemwise (Spells anchors) k items ts)
      (tag : Option String) : Spells anchors k (.sequence items tag) (.sequence ts tag)
  | mapping {k : Nat} {entries ts : List (Node × Node)}
      (h : Itemwise (Both (Spells anchors)) k entries ts) (tag : Option String) :
      Spells anchors k (.mapping entries tag) (.mapping ts tag)
  | named {k anchor : Nat} {n t : Node} (h : anchors.lookup anchor = some n)
      (hdirect : ∀ other, n ≠ .alias other) (hn : Spells anchors k n t) :
      Spells anchors (k + 1) (.alias anchor) t

theorem Itemwise.refl {α : Type} {R : Nat → α → α → Prop} {as : List α} (h : ∀ a ∈ as, R 0 a a) :
    Itemwise R 0 as as := by
  induction as with
  | nil => exact .nil
  | cons a as ih =>
      obtain ⟨ha, has⟩ := List.forall_mem_cons.mp h
      exact .cons ha (ih has)

/-- A tree spells itself. -/
theorem Node.Tree.spells {t : Node} (ht : t.Tree) (anchors : List (Nat × Node)) :
    Spells anchors 0 t t := by
  induction ht with
  | scalar text style tag => exact .scalar text style tag
  | sequence h tag ih => exact .sequence (.refl ih) tag
  | mapping hkeys _ h tag ih =>
      refine .mapping (.refl fun e he => ?_) tag
      have hkey : Spells anchors 0 e.1 e.1 := by
        match e.1, hkeys e he with
        | .scalar text style tag, _ => exact .scalar text style tag
      exact .mk hkey (ih e he)

end TwinRun.Yaml
