import TwinRun.Proofs.Yaml.Tree

/-!
Reading a document node by node.

* `Gives`: what a reader gives if it may follow enough aliases. There is one lemma for each way in
  which readers are put together.
* `gives_asText`, `gives_asItems_bind`, `gives_asRecord_bind`, `gives_value`: reading a node gives
  what is said of the tree that it spells.
-/

namespace TwinRun.Yaml

variable {α β γ : Type}

/-! ### Readers -/

/-- If it may follow `k` aliases or more, the reader follows no more than `k` of them and gives
exactly what has the property `P`. Where nothing has it, the reader fails. -/
def Gives (k : Nat) (reader : Following α) (P : α → Prop) : Prop :=
  ∀ left, k ≤ left → (∀ a left', reader left = some (a, left') → left ≤ left' + k) ∧
    ∀ a, (∃ left', reader left = some (a, left')) ↔ P a

namespace Gives

variable {i j k : Nat} {reader : Following α} {P : α → Prop}

theorem pure (a : α) : Gives 0 (Pure.pure a : Following α) (· = a) := by
  intro left _
  refine ⟨?_, fun b => ?_⟩
  · rintro b left' h
    cases h
    exact Nat.le_refl _
  · constructor
    · rintro ⟨left', h⟩
      cases h
      rfl
    · rintro rfl
      exact ⟨left, rfl⟩

/-- A reader that fails where there is nothing to give. -/
theorem failure (h : ∀ a, ¬ P a) : Gives k (Alternative.failure : Following α) P := by
  intro left _
  refine ⟨fun a left' ha => ?_, fun a => ⟨fun ⟨left', ha⟩ => ?_, fun ha => absurd ha (h a)⟩⟩
  · cases ha
  · cases ha

theorem congr {Q : α → Prop} (h : Gives k reader P) (hPQ : ∀ a, P a ↔ Q a) : Gives k reader Q :=
  fun left hleft => ⟨(h left hleft).1, fun a => ((h left hleft).2 a).trans (hPQ a)⟩

theorem mono (h : Gives i reader P) (hij : i ≤ j) : Gives j reader P := by
  intro left hleft
  obtain ⟨hcost, hgives⟩ := h left (Nat.le_trans hij hleft)
  exact ⟨fun a left' ha => Nat.le_trans (hcost a left' ha) (by omega), hgives⟩

theorem elim (found : Option α) :
    Gives 0 (found.elim Alternative.failure Pure.pure : Following α) (found = some ·) := by
  cases found with
  | none => exact failure fun a h => by cases h
  | some b => exact (pure b).congr fun a => by simp [eq_comm]

/-- Readers one after the other. What the first one gives is known to the second one. -/
theorem bind {f : α → Following β} {Q : α → β → Prop} (h : Gives i reader P)
    (hf : ∀ a, P a → Gives j (f a) (Q a)) :
    Gives (i + j) (reader >>= f) fun b => ∃ a, P a ∧ Q a b := by
  intro left hleft
  obtain ⟨hcost, hgives⟩ := h left (by omega)
  have hbind : (reader >>= f) left = (reader left).bind fun r => f r.1 r.2 := rfl
  cases hr : reader left with
  | none =>
      rw [hr, Option.bind_none] at hbind
      rw [hbind]
      refine ⟨fun b left' hb => (by cases hb), fun b => ⟨fun ⟨left', hb⟩ => (by cases hb), ?_⟩⟩
      rintro ⟨a, ha, -⟩
      obtain ⟨left', hsome⟩ := (hgives a).mpr ha
      rw [hr] at hsome
      cases hsome
  | some r =>
      obtain ⟨a, left₁⟩ := r
      rw [hr, Option.bind_some] at hbind
      have hleft₁ := hcost a left₁ hr
      obtain ⟨hcost', hgives'⟩ := hf a ((hgives a).mp ⟨left₁, hr⟩) left₁ (by omega)
      rw [hbind]
      refine ⟨fun b left' hb => ?_, fun b => (hgives' b).trans ⟨fun hb => ?_, ?_⟩⟩
      · have hleft' := hcost' b left' hb
        omega
      · exact ⟨a, (hgives a).mp ⟨left₁, hr⟩, hb⟩
      · rintro ⟨a', ha', hb⟩
        obtain ⟨left', hsome⟩ := (hgives a').mpr ha'
        rw [hr] at hsome
        cases hsome
        exact hb

/-- A value that is made from what a reader gives. -/
theorem map {f : α → β} (h : Gives k reader P) :
    Gives k (do return f (← reader)) fun b => ∃ a, P a ∧ b = f a :=
  h.bind fun a _ => pure (f a)

/-- A reader behind a refusal. -/
theorem refuse {refused : Bool} {rest : PUnit → Following α} (h : Gives k (rest ⟨⟩) P) :
    Gives k (if refused then Alternative.failure >>= rest else rest ⟨⟩)
      fun a => ¬ refused ∧ P a := by
  cases refused with
  | true =>
      rw [if_pos rfl]
      exact failure fun a => by simp
  | false =>
      rw [if_neg Bool.false_ne_true]
      exact h.congr fun a => by simp

/-- Reading the items of a list one after the other. -/
theorem mapM {R : Nat → α → γ → Prop} {Q : γ → β → Prop} {f : α → Following β}
    {as : List α} {cs : List γ} (h : Itemwise R k as cs)
    (hf : ∀ {k a c}, R k a c → Gives k (f a) (Q c)) :
    Gives k (as.mapM f) (List.Forall₂ Q cs) := by
  induction h with
  | nil => exact (pure []).congr fun bs => by simp
  | cons ha _ ih =>
      rw [List.mapM_cons]
      refine ((hf ha).bind fun b _ => ih.map).congr fun bs => ?_
      rw [List.forall₂_cons_left_iff]
      constructor
      · rintro ⟨b, hb, bs, hbs, rfl⟩
        exact ⟨b, bs, hb, hbs, rfl⟩
      · rintro ⟨b, bs, hb, hbs, rfl⟩
        exact ⟨b, hb, bs, hbs, rfl⟩

/-- A reader that may follow enough aliases. -/
theorem run' (h : Gives k reader P) {left : Nat} (hleft : k ≤ left) (a : α) :
    reader.run' left = some a ↔ P a := by
  rw [← (h left hleft).2 a]
  change Option.map _ (reader left) = some a ↔ _
  simp

end Gives

/-! ### Nodes -/

variable {anchors : List (Nat × Node)} {k : Nat} {n t : Node}

/-- Going to what a node stands for. -/
theorem Spells.follow (h : Spells anchors k n t) :
    ∃ i j m, i + j = k ∧ Gives i (n.follow anchors) (· = m) ∧ Spells anchors j m t ∧
      ∀ other, m ≠ .alias other := by
  cases h with
  | scalar text style tag =>
      exact ⟨0, 0, _, rfl, .pure _, .scalar text style tag, by simp⟩
  | sequence h tag => exact ⟨0, k, _, Nat.zero_add k, .pure _, .sequence h tag, by simp⟩
  | mapping h tag => exact ⟨0, k, _, Nat.zero_add k, .pure _, .mapping h tag, by simp⟩
  | @named k anchor m _ h hdirect hm =>
      refine ⟨1, k, m, Nat.add_comm 1 k, fun left hleft => ?_, hm, hdirect⟩
      obtain ⟨left, rfl⟩ := Nat.exists_eq_add_of_le' hleft
      have hfollow : (Node.alias anchor).follow anchors (left + 1) = some (m, left) := by
        change ((anchors.lookup anchor).elim failure pure : Following Node) left = _
        rw [h]
        rfl
      rw [hfollow]
      refine ⟨?_, fun a => ⟨?_, ?_⟩⟩
      · rintro a left' ⟨⟩
        exact Nat.le_refl _
      · rintro ⟨left', ⟨⟩⟩
        rfl
      · rintro rfl
        exact ⟨left, rfl⟩

/-- A reader that goes to what a node stands for and looks at that. -/
theorem Spells.gives_follow {f : Node → Following α} {P : α → Prop} (h : Spells anchors k n t)
    (hf : ∀ {j m}, Spells anchors j m t → (∀ other, m ≠ .alias other) → Gives j (f m) P) :
    Gives k (n.follow anchors >>= f) P := by
  obtain ⟨i, j, m, rfl, hfollow, hm, hdirect⟩ := h.follow
  refine (hfollow.bind (Q := fun _ => P) fun a ha => ?_).congr fun a => by simp
  rw [ha]
  exact hf hm hdirect

theorem gives_asText (h : Spells anchors k n t) :
    Gives k (n.asText anchors) (t.text? = some ·) := by
  refine h.gives_follow fun hm hdirect => ?_
  cases hm with
  | scalar text style tag => exact (Gives.pure text).congr fun s => by simp [Node.text?, eq_comm]
  | sequence _ tag => exact .failure fun s => by simp [Node.text?]
  | mapping _ tag => exact .failure fun s => by simp [Node.text?]
  | named => exact absurd rfl (hdirect _)

theorem gives_asPath (h : Spells anchors k n t) : Gives k (n.asPath anchors) t.IsPath :=
  (gives_asText h).map

/-- The items of a node are those of the tree that it spells. -/
theorem Spells.items? (h : Spells anchors k n t) (hdirect : ∀ other, n ≠ .alias other) :
    (n.items? = none ∧ t.items? = none) ∨
      ∃ items ts, n.items? = some items ∧ t.items? = some ts ∧
        Itemwise (Spells anchors) k items ts := by
  cases h with
  | scalar text style tag =>
      cases hnothing : (Node.scalar text style tag).isNothing with
      | true =>
          have hitems : (Node.scalar text style tag).items? = some [] := by
            simp [Node.items?, hnothing]
          exact .inr ⟨[], [], hitems, hitems, .nil⟩
      | false => exact .inl (by simp [Node.items?, hnothing])
  | sequence h tag => exact .inr ⟨_, _, rfl, rfl, h⟩
  | mapping h tag => exact .inl ⟨rfl, rfl⟩
  | named => exact absurd rfl (hdirect _)

theorem asItems_eq (anchors : List (Nat × Node)) (n : Node) :
    n.asItems anchors = n.follow anchors >>= fun m => m.items?.elim failure pure := by
  rw [Node.asItems]
  congr 1
  funext m
  split
  · rfl
  · rfl
  · next hsequence hnothing =>
      have hnone : m.items? = none := by
        rw [Node.items?.eq_2 m hsequence, if_neg]
        rintro h
        obtain ⟨tag, rfl⟩ := Node.isNothing_iff.mp h
        exact hnothing tag rfl
      rw [hnone]
      rfl

/-- Reading the items of a sequence. -/
theorem gives_asItems_bind (h : Spells anchors k n t) {f : List Node → Following α} {P : α → Prop}
    (hf : ∀ {j items ts}, t.items? = some ts → Itemwise (Spells anchors) j items ts →
      Gives j (f items) P) :
    Gives k (n.asItems anchors >>= f) fun a => t.items?.isSome ∧ P a := by
  rw [asItems_eq, bind_assoc]
  refine h.gives_follow fun hm hdirect => ?_
  rcases hm.items? hdirect with ⟨hn, ht⟩ | ⟨items, ts, hn, ht, hitems⟩
  · rw [hn, ht]
    exact .failure fun a => by simp
  · rw [hn, Option.elim_some, pure_bind]
    exact (hf ht hitems).congr fun a => by simp [ht]

/-! ### Records -/

/-- Reading the keys of a mapping, which are strings. -/
theorem gives_names {entries ts : List (Node × Node)}
    (h : Itemwise (Both (Spells anchors)) k entries ts) (hkeys : ∀ e ∈ ts, e.1.string?.isSome) :
    ∃ i j record, i + j = k ∧ Itemwise (Named (Spells anchors)) j record ts ∧
      Gives i (entries.mapM fun (key, value) => do return (← key.asText anchors, value))
        (· = record) := by
  induction h with
  | nil => exact ⟨0, 0, [], rfl, .nil, .pure []⟩
  | cons he hrest ih =>
      obtain ⟨hkey, hkeys⟩ := List.forall_mem_cons.mp hkeys
      obtain ⟨i, j, record, rfl, hrecord, hnames⟩ := ih hkeys
      obtain @⟨i', j', key, value, key', value', hk, hv⟩ := he
      obtain ⟨name, hname⟩ := Option.isSome_iff_exists.mp hkey
      have htext : key'.text? = some name := Node.text?_of_string? hname
      refine ⟨i' + i, j' + j, (name, value) :: record, by omega, .cons ⟨htext, hv⟩ hrecord, ?_⟩
      rw [List.mapM_cons]
      refine ((gives_asText hk).map.bind fun r _ => hnames.map).congr fun found => ?_
      simp [htext]

theorem asRecord_eq (anchors : List (Nat × Node)) (n : Node) :
    n.asRecord anchors = n.follow anchors >>= fun m => if m.isRecord then
      m.entries.mapM fun (key, value) => do return (← key.asText anchors, value) else failure := by
  rw [Node.asRecord]
  congr 1
  funext m
  split
  · rfl
  · rfl
  · next hmapping hnothing =>
      have hnone : m.isRecord = false := by
        rw [Node.isRecord.eq_2 m hmapping, Bool.eq_false_iff]
        rintro h
        obtain ⟨tag, rfl⟩ := Node.isNothing_iff.mp h
        exact hnothing tag rfl
      rw [hnone]
      rfl

/-- The entries of a node are those of the tree that it spells. -/
theorem Spells.entries (h : Spells anchors k n t) (hdirect : ∀ other, n ≠ .alias other) :
    n.isRecord = t.isRecord ∧
      (t.isRecord → Itemwise (Both (Spells anchors)) k n.entries t.entries) := by
  cases h with
  | scalar text style tag => exact ⟨rfl, fun _ => .nil⟩
  | sequence h tag => exact ⟨rfl, fun h => by cases h⟩
  | mapping h tag => exact ⟨rfl, fun _ => h⟩
  | named => exact absurd rfl (hdirect _)

/-- Reading a record. -/
theorem gives_asRecord_bind (h : Spells anchors k n t) (ht : t.Tree)
    {f : List (String × Node) → Following α} {P : α → Prop}
    (hf : ∀ {j record cost}, Fields (Spells anchors) j record t cost → Gives j (f record) P) :
    Gives k (n.asRecord anchors >>= f) fun a => t.isRecord ∧ P a := by
  rw [asRecord_eq, bind_assoc]
  refine h.gives_follow fun {k m} hm hdirect => ?_
  obtain ⟨hrecord, hentries⟩ := hm.entries hdirect
  rw [hrecord]
  cases hisRecord : t.isRecord with
  | false =>
      rw [if_neg Bool.false_ne_true]
      exact .failure fun a => by simp
  | true =>
      obtain ⟨i, j, record, rfl, hnamed, hnames⟩ :=
        gives_names (hentries hisRecord) ht.isSome_string?
      obtain ⟨cost, hfields⟩ := hnamed.fields ht
      rw [if_pos rfl]
      refine (hnames.bind (Q := fun _ => P) fun found hfound => ?_).congr fun a => by simp
      rw [hfound]
      exact hf hfields

/-! ### Values -/

/-- Reading a value. -/
theorem gives_value {depth : Nat} (h : Spells anchors k n t) :
    Gives k (n.value anchors depth) (IsValue depth t) := by
  -- By the depth that is left, as a value may be nested in itself through its items and entries.
  induction depth generalizing k n t with
  | zero =>
      rw [Node.value]
      refine h.gives_follow fun hm hdirect => ?_
      cases hm with
      | scalar text style tag => exact .elim _
      | sequence _ tag => exact .failure fun v => False.elim
      | mapping _ tag => exact .failure fun v => False.elim
      | named => exact absurd rfl (hdirect _)
  | succ depth ih =>
      rw [Node.value]
      refine h.gives_follow fun hm hdirect => ?_
      cases hm with
      | scalar text style tag => exact .elim _
      | sequence hitems tag => exact .refuse (Gives.mapM hitems ih).map
      | mapping hentries tag =>
          refine .refuse (Gives.mapM hentries fun hentry => ?_).map
          obtain ⟨hkey, hvalue⟩ := hentry
          refine ((ih hkey).bind fun v _ => (ih hvalue).map).congr fun v => ?_
          constructor
          · rintro ⟨key, hkey, value, hvalue, rfl⟩
            exact ⟨hkey, hvalue⟩
          · rintro ⟨hkey, hvalue⟩
            exact ⟨_, hkey, _, hvalue, rfl⟩
      | named => exact absurd rfl (hdirect _)

end TwinRun.Yaml
