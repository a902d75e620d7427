import Mathlib.Data.List.TakeWhile
import TwinRun.CommandLine.Arguments
import TwinRun.Proofs.System.Host
import TwinRun.Proofs.Text.Decoding

/-!
How flags are spelled.

`Spelled items argv` says that the arguments `argv` write out the flags `items`, in order, each in
one of its spellings.

* `readAll_spelled`: reading such arguments settles these flags one after the other, and nothing
  else. So no value is taken for a flag, and no spelling matters.
* `parse_spelled_eq`: what comes of them.
-/

namespace TwinRun.CommandLine

structure Item where
  flag : Flag
  value : Option Bytes
  deriving DecidableEq, Repr

def verboseLetter : UInt8 := 118

def longName (f : Flag) : Bytes := dash :: dash :: Bytes.ofString f.long

/-- The arguments write out the items, in order. A value stands in the same argument behind an
equals sign, or in the next argument unless it starts like a flag. Letters may be joined. -/
inductive Spelled : List Item → List Bytes → Prop
  | nil : Spelled [] []
  | switch {items : List Item} {argv : List Bytes} {f : Flag} (switch : f.takesValue = false)
      (setting : f.isSetting = true) (rest : Spelled items argv) :
      Spelled (⟨f, none⟩ :: items) (longName f :: argv)
  | joined {items : List Item} {argv : List Bytes} {f : Flag} (option : f.takesValue = true)
      (value : Bytes) (rest : Spelled items argv) :
      Spelled (⟨f, some value⟩ :: items) ((longName f ++ equalsSign :: value) :: argv)
  | apart {items : List Item} {argv : List Bytes} {f : Flag} (option : f.takesValue = true)
      {value : Bytes} (plain : value.head? ≠ some dash) (rest : Spelled items argv) :
      Spelled (⟨f, some value⟩ :: items) (longName f :: value :: argv)
  | letters {items : List Item} {argv : List Bytes} (more : Nat) (rest : Spelled items argv) :
      Spelled (List.replicate (more + 1) ⟨.verbose, none⟩ ++ items)
        ((dash :: List.replicate (more + 1) verboseLetter) :: argv)

/-- A spelled flag that takes a value has one. -/
theorem Spelled.isSome_value {items : List Item} {argv : List Bytes} (h : Spelled items argv) :
    ∀ i ∈ items, i.flag.takesValue = true → i.value.isSome = true := by
  induction h with
  | nil => exact fun i hi => absurd hi List.not_mem_nil
  | switch hswitch _ _ ih =>
      refine List.forall_mem_cons.mpr ⟨fun h => ?_, ih⟩
      exact absurd (hswitch.symm.trans h) Bool.false_ne_true
  | joined _ _ _ ih => exact List.forall_mem_cons.mpr ⟨fun _ => rfl, ih⟩
  | apart _ _ _ ih => exact List.forall_mem_cons.mpr ⟨fun _ => rfl, ih⟩
  | letters more _ ih =>
      intro i hi
      rcases List.mem_append.mp hi with hi | hi
      · rw [List.eq_of_mem_replicate hi]
        exact fun h => absurd h (by decide)
      · exact ih i hi

/-! ### Settling flags -/

section Settling

variable {f g : Flag} {value : Option Bytes} {s s' : Reading} {items : List Item}

/-- What goes on from the state starts with it. -/
theorem get_bind {α : Type} (k : Reading → Step α) (s : Reading) : (get >>= k) s = k s s := rfl

theorem settle_eq (f : Flag) (value : Option Bytes) (s : Reading) :
    settle f value s =
      if f.takesValue ∧ value.isNone then .error (.missingValue f) s
      else if f ∈ s.given ∧ f ≠ .verbose then
        .error (.repeated f) { s with given := s.given.erase f }
      else match s.arguments.enter f (value.getD []) with
        | .ok arguments =>
            .ok () { s with given := s.given.erase f ++ [f], arguments := arguments }
        | .error problem => .error problem { s with given := s.given.erase f ++ [f] } := by
  unfold settle
  split
  · rfl
  · simp only [get_bind]
    split
    · rfl
    · cases s.arguments.enter f (value.getD []) <;> rfl

def settleAll (items : List Item) : Step Unit := items.forM fun i => settle i.flag i.value

theorem settleAll_cons (i : Item) (items : List Item) :
    settleAll (i :: items) = settle i.flag i.value >>= fun _ => settleAll items := rfl

theorem settleAll_append (items more : List Item) :
    settleAll (items ++ more) = settleAll items >>= fun _ => settleAll more := List.forM_append

/-- A settled flag has been entered and is among those given. -/
theorem settle_eq_ok (h : settle f value s = .ok () s') :
    s.arguments.enter f (value.getD []) = .ok s'.arguments ∧ s'.given = s.given.erase f ++ [f] ∧
      s'.pending = s.pending ∧ (f ∈ s.given → f = .verbose) := by
  rw [settle_eq] at h
  split at h
  · cases h
  · split at h
    · cases h
    · next hfresh =>
        cases hentered : s.arguments.enter f (value.getD []) with
        | error problem => rw [hentered] at h; cases h
        | ok arguments =>
            rw [hentered] at h
            cases h
            exact ⟨rfl, rfl, rfl, fun hgiven =>
              Decidable.byContradiction fun hverbose => hfresh ⟨hgiven, hverbose⟩⟩

/-- Flags that have been given stay so. -/
theorem mem_given_of_settle (h : settle f value s = .ok () s') (hg : g ∈ s.given ∨ g = f) :
    g ∈ s'.given := by
  rw [(settle_eq_ok h).2.1, List.mem_append, List.mem_singleton]
  by_cases heq : g = f
  · exact .inr heq
  · exact .inl ((List.mem_erase_of_ne heq).mpr (hg.resolve_right heq))

theorem mem_given_of_settleAll (h : settleAll items s = .ok () s')
    (hg : g ∈ s.given ∨ g ∈ items.map Item.flag) : g ∈ s'.given := by
  induction items generalizing s with
  | nil =>
      cases h
      exact hg.resolve_right List.not_mem_nil
  | cons i items ih =>
      rw [settleAll_cons, bind_eq_ok] at h
      obtain ⟨⟨⟩, s₁, hsettle, h⟩ := h
      rw [List.map_cons, List.mem_cons, ← or_assoc] at hg
      exact ih h (hg.imp_left (mem_given_of_settle hsettle))

theorem pending_of_settleAll (h : settleAll items s = .ok () s') : s'.pending = s.pending := by
  induction items generalizing s with
  | nil => cases h; rfl
  | cons i items ih =>
      rw [settleAll_cons, bind_eq_ok] at h
      obtain ⟨⟨⟩, s₁, hsettle, h⟩ := h
      rw [ih h, (settle_eq_ok hsettle).2.2.1]

/-! ### The flag that waits -/

theorem settlePending_eq (s : Reading) :
    settlePending s =
      match s.pending with
      | some (f, value) => settle f value { s with pending := none }
      | none => .ok () s := by
  rw [settlePending, get_bind]
  cases s.pending <;> rfl

theorem pending_of_settlePending (h : settlePending s = .ok () s') : s'.pending = none := by
  rw [settlePending_eq] at h
  split at h
  · exact (settle_eq_ok h).2.2.1
  · next hpending =>
      cases h
      exact hpending

/-- First the flag that waits is settled, then these are. -/
def settlesWith (items : List Item) : Step Unit := settlePending >>= fun _ => settleAll items

/-- Once flags are settled, none waits. -/
theorem settlesWith_append (items more : List Item) :
    settlesWith (items ++ more) = settlesWith items >>= fun _ => settlesWith more := by
  funext s
  rw [settlesWith, settleAll_append, ← bind_assoc]
  refine bind_congr_of_ok fun ⟨⟩ s' h => ?_
  obtain ⟨⟨⟩, s₁, hwaiting, hitems⟩ := bind_eq_ok.mp h
  have hnone : s'.pending = none := by
    rw [pending_of_settleAll hitems, pending_of_settlePending hwaiting]
  have hnothing : settlePending s' = .ok () s' := by rw [settlePending_eq, hnone]
  exact (bind_of_ok hnothing fun _ => settleAll more).symm

theorem settlesWith_singleton (f : Flag) (value : Option Bytes) :
    settlesWith [⟨f, value⟩] = settlePending >>= fun _ => settle f value := by
  rw [settlesWith, settleAll_cons]
  exact congrArg _ (funext fun _ => bind_pure_unit)

end Settling

/-! ### One argument -/

section Arguments

variable {f : Flag} {b value : Bytes}

theorem meet_switch (hswitch : f.takesValue = false) (hsetting : f.isSetting = true)
    (long : Bool) : meet f long none = settlesWith [⟨f, none⟩] := by
  rw [settlesWith_singleton]
  cases f <;> first | rfl | exact absurd hswitch (by decide) | exact absurd hsetting (by decide)

theorem meet_value (hoption : f.takesValue = true) (value : Bytes) :
    meet f true (some value) = settlesWith [⟨f, some value⟩] := by
  rw [settlesWith_singleton]
  cases f <;> first | rfl | exact absurd hoption (by decide)

theorem meet_waiting (hoption : f.takesValue = true) :
    meet f true none
      = settlePending >>= fun _ => modify fun r => { r with pending := some (f, none) } := by
  cases f <;> first | rfl | exact absurd hoption (by decide)

theorem ofLong?_long (f : Flag) :
    (Bytes.ofString f.long).text?.bind Flag.ofLong? = some f := by
  rw [Bytes.text?_ofString, Option.bind_some]
  cases f <;> decide

theorem ne_equalsSign_of_mem_long (f : Flag) :
    ∀ b ∈ Bytes.ofString f.long, (decide (b ≠ equalsSign)) = true := by
  have hall : (Bytes.ofString f.long).all (· ≠ equalsSign) = true := by cases f <;> decide
  exact List.all_eq_true.mp hall

theorem readLong_long (f : Flag) : readLong (Bytes.ofString f.long) = meet f true none := by
  have hname : (Bytes.ofString f.long).takeWhile (· ≠ equalsSign) = Bytes.ofString f.long :=
    List.takeWhile_eq_self_iff.mpr (ne_equalsSign_of_mem_long f)
  rw [readLong, hname, if_neg (Nat.lt_irrefl _), ofLong?_long]

theorem readLong_long_append (hoption : f.takesValue = true) (value : Bytes) :
    readLong (Bytes.ofString f.long ++ equalsSign :: value) = meet f true (some value) := by
  have hname : (Bytes.ofString f.long ++ equalsSign :: value).takeWhile (· ≠ equalsSign)
      = Bytes.ofString f.long := by
    rw [List.takeWhile_append_of_pos (ne_equalsSign_of_mem_long f),
      List.takeWhile_cons_of_neg (by decide), List.append_nil]
  have hlonger : (Bytes.ofString f.long).length
      < (Bytes.ofString f.long ++ equalsSign :: value).length := by simp
  have hvalue : (Bytes.ofString f.long ++ equalsSign :: value).drop
      ((Bytes.ofString f.long).length + 1) = value := by simp
  rw [readLong, hname, if_pos hlonger, ofLong?_long, hvalue]
  exact if_pos hoption

theorem firstChar?_verboseLetter (rest : Bytes) :
    firstChar? (verboseLetter :: rest) = some 'v' := by
  have hletter : Bytes.text? [verboseLetter] = some "v" := Bytes.text?_ofString "v"
  simp [firstChar?, hletter]

theorem readShort_verboseLetter (rest : Bytes) :
    readShort (verboseLetter :: rest)
      = settlesWith [⟨.verbose, none⟩] >>= fun _ => readShort rest := by
  rw [readShort, firstChar?_verboseLetter,
    ← meet_switch (f := .verbose) (by decide) (by decide) false]
  rfl

/-- Joined letters are settled one after the other. -/
theorem readShort_letters (more : Nat) :
    readShort (List.replicate (more + 1) verboseLetter)
      = settlesWith (List.replicate (more + 1) ⟨.verbose, none⟩) := by
  induction more with
  | zero =>
      rw [List.replicate_one, readShort_verboseLetter, List.replicate_one]
      exact bind_pure_unit
  | succ more ih =>
      rw [List.replicate_succ, readShort_verboseLetter, ih, ← settlesWith_append]
      rfl

end Arguments

/-! ### All arguments -/

theorem readAll_cons {b : Bytes} (hb : b ≠ endOfFlags) (argv : List Bytes) :
    readAll (b :: argv) = readArgument b >>= fun _ => readAll argv :=
  if_neg hb

/-- An argument behind two dashes. -/
theorem readAll_long {name : Bytes} (hname : name ≠ []) (argv : List Bytes) :
    readAll ((dash :: dash :: name) :: argv) = readLong name >>= fun _ => readAll argv := by
  have hne : dash :: dash :: name ≠ endOfFlags := fun h =>
    hname (List.cons.inj (List.cons.inj h).2).2
  rw [readAll_cons hne]
  rfl

/-- An argument that does not look like a flag is a value. -/
theorem readAll_value {value : Bytes} (hplain : value.head? ≠ some dash) (argv : List Bytes) :
    readAll (value :: argv) = readValue value >>= fun _ => readAll argv := by
  have hne : value ≠ endOfFlags := by
    rintro rfl
    exact hplain rfl
  rw [readAll_cons hne]
  match value with
  | [] => rfl
  | [_] => rfl
  | first :: second :: rest =>
      have hfirst : first ≠ dash := fun h => hplain (congrArg some h)
      rw [readArgument, if_pos hfirst]

theorem long_ne_nil (f : Flag) : Bytes.ofString f.long ≠ [] := by cases f <;> decide

/-- The value of the flag that waits is the next argument. -/
theorem readValue_of_waiting {f : Flag} {s : Reading} (h : s.pending = some (f, none))
    (value : Bytes) :
    readValue value s = .ok () { s with pending := some (f, some value) } := by
  rw [readValue, get_bind, h]
  rfl

/-- A flag that waits and finds its value is settled with it before the next ones. -/
theorem wait_readValue (f : Flag) (value : Bytes) (items : List Item) :
    (settlePending >>= fun _ => (modify fun r => { r with pending := some (f, none) } : Step Unit)
        >>= fun _ => readValue value >>= fun _ => settlesWith items)
      = settlesWith (⟨f, some value⟩ :: items) := by
  funext s
  refine bind_congr_of_ok fun ⟨⟩ s' h => ?_
  have hnone := pending_of_settlePending h
  let waiting : Reading := { s' with pending := some (f, none) }
  let found : Reading := { s' with pending := some (f, some value) }
  have hwait : (modify fun r => { r with pending := some (f, none) } : Step Unit) s'
      = .ok () waiting := rfl
  have hfind : readValue value waiting = .ok () found := readValue_of_waiting rfl value
  have hsettle : settlePending found = settle f (some value) s' := by
    rw [settlePending_eq, ← hnone]
  rw [bind_of_ok hwait, bind_of_ok hfind, settleAll_cons, settlesWith]
  change EStateM.bind settlePending _ found = EStateM.bind (settle f (some value)) _ s'
  rw [EStateM.bind, EStateM.bind, hsettle]

/-- **Spelling.** Reading arguments settles the flags that they write out, in order, and does
nothing else. -/
theorem readAll_spelled {items : List Item} {argv : List Bytes} (h : Spelled items argv) :
    readAll argv = settlesWith items := by
  -- By the way each item is written; a value apart is read as an argument of its own while the flag
  -- waits for it.
  induction h with
  | nil => exact bind_pure_unit.symm
  | switch hswitch hsetting _ ih =>
      rw [longName, readAll_long (long_ne_nil _), readLong_long, meet_switch hswitch hsetting, ih,
        ← settlesWith_append]
      rfl
  | joined hoption value _ ih =>
      rw [longName, List.cons_append, List.cons_append,
        readAll_long (List.append_ne_nil_of_left_ne_nil (long_ne_nil _) _),
        readLong_long_append hoption, meet_value hoption, ih, ← settlesWith_append]
      rfl
  | apart hoption hplain _ ih =>
      rw [longName, readAll_long (long_ne_nil _), readLong_long, meet_waiting hoption,
        readAll_value hplain, ih, bind_assoc]
      exact wait_readValue _ _ _
  | letters more _ ih =>
      have hshort : readArgument (dash :: List.replicate (more + 1) verboseLetter)
          = readShort (List.replicate (more + 1) verboseLetter) := rfl
      have hne : dash :: List.replicate (more + 1) verboseLetter ≠ endOfFlags := fun h =>
        absurd (List.cons.inj (List.cons.inj h).2).1 (by decide)
      rw [readAll_cons hne, hshort, readShort_letters, ih, ← settlesWith_append]

/-- What comes of spelled flags. -/
theorem parse_spelled_eq {items : List Item} {argv : List Bytes} (h : Spelled items argv) :
    parse argv =
      match settleAll items {} with
      | .ok _ r => .ok r.arguments
      | .error problem _ => .error problem := by
  rw [parse, readAll_spelled h]
  rfl

end TwinRun.CommandLine
