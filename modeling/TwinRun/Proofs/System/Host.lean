import TwinRun.System.Host

/-!
Work, step by step.

* `bind_of_ok` follows work forwards, and `bind_eq_ok` and `bind_eq_error` take it apart again.
* `Looks`: work that never fails and changes nothing that matters. `Host.Quiet` says what that takes
  of a host. `Finds` says what such work finds.
* `Keeps`: work that leaves a view of the system as it is, whether it succeeds or fails.
-/

namespace TwinRun

section Work

variable {ε σ α β : Type}

/-- Work goes on from what its first step has given. -/
theorem bind_of_ok {x : EStateM ε σ α} {s s' : σ} {a : α} (h : x s = .ok a s')
    (f : α → EStateM ε σ β) : (x >>= f) s = f a s' := by
  change EStateM.bind x f s = _
  rw [EStateM.bind, h]

/-- What follows a step only matters in the states in which the step ends. -/
theorem bind_congr_of_ok {x : EStateM ε σ α} {f g : α → EStateM ε σ β} {s : σ}
    (h : ∀ a s', x s = .ok a s' → f a s' = g a s') : (x >>= f) s = (x >>= g) s := by
  change EStateM.bind x f s = EStateM.bind x g s
  rw [EStateM.bind, EStateM.bind]
  cases hx : x s with
  | ok a s' => exact h a s' hx
  | error e s' => rfl

/-- Work that succeeds has succeeded step by step. -/
theorem bind_eq_ok {x : EStateM ε σ α} {f : α → EStateM ε σ β} {s s' : σ} {b : β} :
    (x >>= f) s = .ok b s' ↔ ∃ a s₁, x s = .ok a s₁ ∧ f a s₁ = .ok b s' := by
  constructor
  · intro h
    change EStateM.bind x f s = _ at h
    rw [EStateM.bind] at h
    cases hx : x s with
    | ok a s₁ => rw [hx] at h; exact ⟨a, s₁, rfl, h⟩
    | error e s₁ => rw [hx] at h; cases h
  · rintro ⟨a, s₁, hx, hf⟩
    rw [bind_of_ok hx, hf]

/-- Work that fails has failed in its first step or in the rest. -/
theorem bind_eq_error {x : EStateM ε σ α} {f : α → EStateM ε σ β} {s s' : σ} {e : ε} :
    (x >>= f) s = .error e s' ↔
      x s = .error e s' ∨ ∃ a s₁, x s = .ok a s₁ ∧ f a s₁ = .error e s' := by
  change EStateM.bind x f s = _ ↔ _
  rw [EStateM.bind]
  cases x s with
  | ok a s₁ =>
      constructor
      · exact fun h => .inr ⟨a, s₁, rfl, h⟩
      · rintro (h | ⟨a', s₂, h, hf⟩)
        · cases h
        · cases h
          exact hf
  | error e' s₁ =>
      constructor
      · rintro ⟨⟩
        exact .inl rfl
      · rintro (h | ⟨a, s₂, h, -⟩)
        · cases h
          rfl
        · cases h

theorem bind_pure_eq_error {x : EStateM ε σ α} {g : α → β} {s s' : σ} {e : ε} :
    (x >>= fun a => pure (g a)) s = .error e s' ↔ x s = .error e s' := by
  rw [bind_eq_error]
  exact or_iff_left fun ⟨_, _, _, h⟩ => by cases h

/-- An attempt that is followed by another one has succeeded in one of them. -/
theorem tryCatch_eq_ok {x : EStateM ε σ α} {f : ε → EStateM ε σ α} {s s' : σ} {a : α} :
    tryCatch x f s = .ok a s' ↔
      x s = .ok a s' ∨ ∃ e s₁, x s = .error e s₁ ∧ f e s₁ = .ok a s' := by
  change EStateM.tryCatch x f s = _ ↔ _
  delta EStateM.tryCatch
  dsimp only
  cases x s with
  | ok b s₁ => simp
  | error e s₁ =>
      constructor
      · exact fun h => .inr ⟨e, s₁, rfl, h⟩
      · rintro (h | ⟨e', s₂, h, hf⟩)
        · cases h
        · cases h
          exact hf

end Work

variable {σ α : Type}

theorem Operation.orFault_eq_ok {op : Operation σ α} {fault : SystemError → Fault} {s s' : σ}
    {a : α} : op.orFault fault s = .ok a s' ↔ op s = .ok a s' := by
  rw [orFault]
  cases op s with
  | ok b s₁ => constructor <;> intro h <;> cases h <;> rfl
  | error e s₁ => exact iff_of_false (fun h => by cases h) (fun h => by cases h)

theorem Operation.orFault_of_ok {op : Operation σ α} {s s' : σ} {a : α} (h : op s = .ok a s')
    (fault : SystemError → Fault) : op.orFault fault s = .ok a s' :=
  orFault_eq_ok.mpr h

theorem Operation.attempt_of_ok {op : Operation σ α} {s s' : σ} {a : α} (h : op s = .ok a s') :
    op.attempt s = .ok (.ok a) s' := by
  rw [attempt, h]

theorem Operation.attempt_of_error {op : Operation σ α} {s s' : σ} {e : SystemError}
    (h : op s = .error e s') : op.attempt s = .ok (.error e) s' := by
  rw [attempt, h]

theorem Operation.orFault_eq_error {op : Operation σ α} {fault : SystemError → Fault} {s s' : σ}
    {f : Fault} : op.orFault fault s = .error f s' ↔
      ∃ cause, op s = .error cause s' ∧ f = fault cause := by
  rw [orFault]
  cases op s with
  | ok a s₁ => exact iff_of_false (fun h => by cases h) (fun ⟨_, h, _⟩ => by cases h)
  | error cause s₁ =>
      constructor
      · rintro ⟨⟩
        exact ⟨cause, rfl, rfl⟩
      · rintro ⟨_, ⟨⟩, rfl⟩
        rfl

/-- Work behind an operation fails over its error, or where it has succeeded. -/
theorem Operation.orFault_bind_eq_error {β : Type} {op : Operation σ α}
    {fault : SystemError → Fault} {k : α → Work σ β} {s s' : σ} {f : Fault} :
    (op.orFault fault >>= k) s = .error f s' ↔
      (∃ cause, op s = .error cause s' ∧ f = fault cause) ∨
        ∃ a s₁, op s = .ok a s₁ ∧ k a s₁ = .error f s' := by
  simp only [bind_eq_error, orFault_eq_error, orFault_eq_ok]

theorem Operation.orFault_bind_of_ok {β : Type} {op : Operation σ α} {k : α → Work σ β}
    {s s₁ : σ} {a : α} (h : op s = .ok a s₁) (fault : SystemError → Fault) :
    (op.orFault fault >>= k) s = k a s₁ :=
  bind_of_ok (orFault_of_ok h fault) k

theorem Operation.orFault_bind_of_error {β : Type} {op : Operation σ α} {k : α → Work σ β}
    {s s' : σ} {cause : SystemError} (h : op s = .error cause s')
    (fault : SystemError → Fault) : (op.orFault fault >>= k) s = .error (fault cause) s' :=
  orFault_bind_eq_error.mpr (.inl ⟨cause, h, rfl⟩)

/-- Work behind an attempt fails where the operation has succeeded, or where it has not. -/
theorem Operation.attempt_bind_eq_error {β : Type} {op : Operation σ α}
    {k : Except SystemError α → Work σ β} {s s' : σ} {f : Fault} :
    (op.attempt >>= k) s = .error f s' ↔
      (∃ a s₁, op s = .ok a s₁ ∧ k (.ok a) s₁ = .error f s') ∨
        ∃ cause s₁, op s = .error cause s₁ ∧ k (.error cause) s₁ = .error f s' := by
  cases hop : op s with
  | ok a s₁ =>
      rw [bind_of_ok (attempt_of_ok hop)]
      constructor
      · exact fun h => .inl ⟨a, s₁, rfl, h⟩
      · rintro (⟨_, _, ⟨⟩, h⟩ | ⟨_, _, ⟨⟩, -⟩)
        exact h
  | error cause s₁ =>
      rw [bind_of_ok (attempt_of_error hop)]
      constructor
      · exact fun h => .inr ⟨cause, s₁, rfl, h⟩
      · rintro (⟨_, _, ⟨⟩, -⟩ | ⟨_, _, ⟨⟩, h⟩)
        exact h

/-! ### Looking -/

/-- Work that never fails and changes the state by no more than `R` allows. What it gives has the
property `Q`. -/
def Looks (R : σ → σ → Prop) (work : Work σ α) (Q : α → Prop) : Prop :=
  ∀ s, ∃ a s', work s = .ok a s' ∧ R s s' ∧ Q a

/-- A host on which looking and telling change no more than `R` allows. -/
structure Host.Quiet (host : Host σ) (R : σ → σ → Prop) : Prop where
  refl : ∀ s, R s s
  trans : ∀ {s s' s''}, R s s' → R s' s'' → R s s''
  note : ∀ e s, R s (host.note e s)
  inspect : ∀ follow p, Looks R (host.inspect follow p).attempt fun _ => True
  list : ∀ p, Looks R (host.list p).attempt fun _ => True

/-- An attempt never fails. -/
theorem Operation.looks_attempt (op : Operation σ α) :
    Looks (fun _ _ => True) op.attempt fun _ => True := by
  intro s
  rw [attempt]
  cases op s with
  | ok a s' => exact ⟨_, s', rfl, trivial, trivial⟩
  | error e s' => exact ⟨_, s', rfl, trivial, trivial⟩

namespace Host

/-- Whatever looking changes, it does not fail. -/
theorem quiet_true (host : Host σ) : host.Quiet fun _ _ => True :=
  ⟨fun _ => trivial, fun _ _ => trivial, fun _ _ => trivial,
    fun _ _ => Operation.looks_attempt _, fun _ => Operation.looks_attempt _⟩

namespace Quiet

variable {β : Type} {host : Host σ} {R : σ → σ → Prop} (hq : host.Quiet R)

include hq

theorem pure {Q : α → Prop} {a : α} (ha : Q a) : Looks R (Pure.pure a) Q := fun s =>
  ⟨a, s, rfl, hq.refl s, ha⟩

theorem bind {P : α → Prop} {Q : β → Prop} {x : Work σ α} {f : α → Work σ β} (hx : Looks R x P)
    (hf : ∀ a, P a → Looks R (f a) Q) : Looks R (x >>= f) Q := by
  intro s
  obtain ⟨a, s₁, hok, hR, ha⟩ := hx s
  obtain ⟨b, s₂, hok', hR', hb⟩ := hf a ha s₁
  exact ⟨b, s₂, (bind_of_ok hok f).trans hok', hq.trans hR hR', hb⟩

theorem tell (e : Log.Event) : Looks R (host.tell e) fun _ => True := fun s =>
  ⟨(), host.note e s, rfl, hq.note e s, trivial⟩

theorem ask (question : σ → Bool) : Looks R (Host.ask question) fun _ => True := fun s =>
  ⟨question s, s, rfl, hq.refl s, trivial⟩

/-- Looking at one item after the other. -/
theorem filterMapM {Q : β → Prop} {f : α → Work σ (Option β)} {l : List α}
    (hf : ∀ a ∈ l, Looks R (f a) fun found => ∀ b, found = some b → Q b) :
    Looks R (l.filterMapM f) fun bs => ∀ b ∈ bs, Q b := by
  induction l with
  | nil => exact hq.pure (List.forall_mem_nil _)
  | cons a l ih =>
      obtain ⟨ha, hl⟩ := List.forall_mem_cons.mp hf
      rw [List.filterMapM_cons]
      refine hq.bind ha fun found hfound => ?_
      cases found with
      | none => exact ih hl
      | some b =>
          exact hq.bind (ih hl) fun bs hbs =>
            hq.pure (List.forall_mem_cons.mpr ⟨hfound b rfl, hbs⟩)

theorem mapM {Q : β → Prop} {f : α → Work σ β} {l : List α} (hf : ∀ a ∈ l, Looks R (f a) Q) :
    Looks R (l.mapM f) fun bs => ∀ b ∈ bs, Q b := by
  induction l with
  | nil => exact hq.pure (List.forall_mem_nil _)
  | cons a l ih =>
      obtain ⟨ha, hl⟩ := List.forall_mem_cons.mp hf
      rw [List.mapM_cons]
      exact hq.bind ha fun b hb =>
        hq.bind (ih hl) fun bs hbs => hq.pure (List.forall_mem_cons.mpr ⟨hb, hbs⟩)

end Quiet

end Host

/-! ### Answers -/

section Answers

variable {β : Type} {R : σ → σ → Prop} {s : σ}

/-- Work that finds `a` in every state that `R` allows from `s` on, and ends in such a state. -/
def Finds (R : σ → σ → Prop) (s : σ) (work : Work σ α) (a : α) : Prop :=
  ∀ s₁, R s s₁ → ∃ s₂, work s₁ = .ok a s₂ ∧ R s s₂

namespace Finds

theorem pure (a : α) : Finds R s (Pure.pure a) a := fun s₁ h => ⟨s₁, rfl, h⟩

theorem bind {x : Work σ α} {f : α → Work σ β} {a : α} {b : β} (hx : Finds R s x a)
    (hf : Finds R s (f a) b) : Finds R s (x >>= f) b := by
  intro s₁ h
  obtain ⟨s₂, hok, h'⟩ := hx s₁ h
  obtain ⟨s₃, hok', h''⟩ := hf s₂ h'
  exact ⟨s₃, (bind_of_ok hok f).trans hok', h''⟩

theorem ask {question : σ → Bool} {answer : Bool} (h : ∀ s₁, R s s₁ → question s₁ = answer) :
    Finds R s (Host.ask question) answer :=
  fun s₁ hR => ⟨s₁, by rw [← h s₁ hR]; rfl, hR⟩

/-- Looking at one item after the other. -/
theorem filterMapM {f : α → Work σ (Option β)} {g : α → Option β} {l : List α}
    (h : ∀ a ∈ l, Finds R s (f a) (g a)) : Finds R s (l.filterMapM f) (l.filterMap g) := by
  induction l with
  | nil => exact pure []
  | cons a l ih =>
      obtain ⟨ha, hl⟩ := List.forall_mem_cons.mp h
      rw [List.filterMapM_cons]
      refine bind ha ?_
      cases hg : g a with
      | none =>
          rw [List.filterMap_cons_none hg]
          exact ih hl
      | some b =>
          rw [List.filterMap_cons_some hg]
          exact bind (ih hl) (pure _)

theorem mapM {f : α → Work σ β} {g : α → β} {l : List α} (h : ∀ a ∈ l, Finds R s (f a) (g a)) :
    Finds R s (l.mapM f) (l.map g) := by
  induction l with
  | nil => exact pure []
  | cons a l ih =>
      obtain ⟨ha, hl⟩ := List.forall_mem_cons.mp h
      rw [List.mapM_cons]
      exact bind ha (bind (ih hl) (pure _))

end Finds

end Answers

/-! ### Views -/

section Views

variable {ε β γ : Type}

/-- The state that work ends in, whether it succeeds or fails. -/
def endState : EStateM.Result ε σ α → σ
  | .ok _ s | .error _ s => s

/-- Work that ends in states related to those it starts from, whether it succeeds or fails. -/
def Moves (R : σ → σ → Prop) (work : EStateM ε σ α) : Prop := ∀ s, R s (endState (work s))

namespace Moves

variable {R : σ → σ → Prop}

theorem pure (hrefl : ∀ s, R s s) (a : α) : Moves R (Pure.pure a : EStateM ε σ α) := hrefl

theorem throw (hrefl : ∀ s, R s s) (e : ε) :
    Moves R (MonadExcept.throw e : EStateM ε σ α) := hrefl

theorem bind (htrans : ∀ {s s' s''}, R s s' → R s' s'' → R s s'') {x : EStateM ε σ α}
    {f : α → EStateM ε σ β} (hx : Moves R x) (hf : ∀ a, Moves R (f a)) : Moves R (x >>= f) := by
  intro s
  have hmoved := hx s
  cases hs : x s with
  | ok a s₁ =>
      rw [hs] at hmoved
      rw [bind_of_ok hs]
      exact htrans hmoved (hf a s₁)
  | error e s₁ =>
      rw [hs] at hmoved
      rw [bind_eq_error.mpr (.inl hs)]
      exact hmoved

theorem tryCatch (htrans : ∀ {s s' s''}, R s s' → R s' s'' → R s s'') {x : EStateM ε σ α}
    {f : ε → EStateM ε σ α} (hx : Moves R x) (hf : ∀ e, Moves R (f e)) :
    Moves R (MonadExcept.tryCatch x f) := by
  intro s
  have hmoved := hx s
  change R s (endState (EStateM.tryCatch x f s))
  delta EStateM.tryCatch
  dsimp only
  cases hs : x s with
  | ok a s₁ =>
      rw [hs] at hmoved
      exact hmoved
  | error e s₁ =>
      rw [hs] at hmoved
      exact htrans hmoved (hf e s₁)

/-- Making a directory with those above it moves no further than making directories does. -/
theorem makeDirectories (hrefl : ∀ s, R s s) (htrans : ∀ {s s' s''}, R s s' → R s' s'' → R s s'')
    {host : Host σ} {paths : List Path} (hmake : ∀ p ∈ paths, Moves R (host.makeDirectory p)) :
    Moves R (host.makeDirectories paths) := by
  induction paths with
  | nil => exact throw hrefl _
  | cons path above ih =>
      obtain ⟨hpath, habove⟩ := List.forall_mem_cons.mp hmake
      -- A directory that somebody else has made counts as made.
      have hthere : ∀ e, Moves R (do
          if host.isDirectory path (← get) then return else MonadExcept.throw e :
          Operation σ Unit) := by
        intro e
        refine bind (R := R) htrans hrefl fun s => ?_
        split
        · exact pure hrefl ()
        · exact throw hrefl e
      rw [Host.makeDirectories]
      split
      · exact pure hrefl ()
      refine tryCatch (R := R) htrans hpath fun e => ?_
      split
      · exact bind (R := R) htrans (ih habove) fun _ => tryCatch (R := R) htrans hpath hthere
      · exact hthere e

end Moves

/-- Work that leaves a view of the system as it is. -/
def Keeps (view : σ → γ) (work : EStateM ε σ α) : Prop := ∀ s, view (endState (work s)) = view s

/-- A view of the system in which only starting a stage can show. -/
structure Host.SeesStartsOnly (host : Host σ) (view : σ → γ) : Prop where
  makeDirectory : ∀ p, Keeps view (host.makeDirectory p)
  list : ∀ p, Keeps view (host.list p)
  inspect : ∀ follow p, Keeps view (host.inspect follow p)
  removeFile : ∀ p, Keeps view (host.removeFile p)
  removeTree : ∀ p, Keeps view (host.removeTree p)
  create : ∀ p, Keeps view (host.create p)
  duplicate : ∀ h, Keeps view (host.duplicate h)
  write : ∀ h bytes, Keeps view (host.write h bytes)
  read : ∀ p, Keeps view (host.read p)
  wait : ∀ child, Keeps view (host.wait child)
  note : ∀ e s, view (host.note e s) = view s

namespace Keeps

variable {view : σ → γ}

theorem pure (a : α) : Keeps view (Pure.pure a : EStateM ε σ α) := fun _ => rfl

theorem throw (e : ε) : Keeps view (MonadExcept.throw e : EStateM ε σ α) := fun _ => rfl

theorem bind {x : EStateM ε σ α} {f : α → EStateM ε σ β} (hx : Keeps view x)
    (hf : ∀ a, Keeps view (f a)) : Keeps view (x >>= f) :=
  Moves.bind (R := fun s s' => view s' = view s) (fun h h' => h'.trans h) hx hf

theorem forM {l : List α} {f : α → EStateM ε σ PUnit} (hf : ∀ a, Keeps view (f a)) :
    Keeps view (l.forM f) := by
  induction l with
  | nil => exact pure PUnit.unit
  | cons a l ih => exact (hf a).bind fun _ => ih

theorem orFault {op : Operation σ α} (h : Keeps view op) (fault : SystemError → Fault) :
    Keeps view (op.orFault fault) := by
  intro s
  have hkept := h s
  rw [Operation.orFault]
  cases hs : op s <;> rw [hs] at hkept <;> exact hkept

end Keeps

end Views

end TwinRun
