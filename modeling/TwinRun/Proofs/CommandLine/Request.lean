import Mathlib
import TwinRun.Proofs.CommandLine.Spelling
import TwinRun.Proofs.Text.Decimal

/-!
What a command line asks for, whatever its order and spelling.

A `Request` chooses a value for some of the options, some of the switches and a number of verbosity
flags.

* `enter_choice`: the written value of an option is read back as the value.
* `settleAll_choices`: choices of different flags are settled without a problem.
* `parse_spelled`: a request is read back from every command line that spells it, and a flag that
  stands twice is a problem.
-/

namespace TwinRun.CommandLine

/-! ### Numbers -/

/-- Digits that have been read are behind the next ones. -/
theorem readDigits_append {cs : List Char} {v w : Nat} (h : readDigits v cs = .ok w)
    (more : List Char) : readDigits v (cs ++ more) = readDigits w more := by
  induction cs generalizing v with
  | nil =>
      cases h
      rfl
  | cons c cs ih =>
      rw [readDigits] at h
      rw [List.cons_append, readDigits]
      cases hdigit : Decimal.read? [c] with
      | none => rw [hdigit] at h; cases h
      | some d =>
          rw [hdigit] at h
          simp only at h ⊢
          split at h
          · next hnext => rw [if_pos hnext, ih h]
          · cases h

theorem readDigits_digit {v d : Nat} (h : v * 10 + d % 10 < numberBound) :
    readDigits v [Decimal.digit d] = .ok (v * 10 + d % 10) := by
  have hdigit : Decimal.read? [Decimal.digit d] = some (d % 10) := by
    have hread := Decimal.readDigit_digit 0 d
    rwa [Nat.zero_mul, Nat.zero_add] at hread
  rw [readDigits, hdigit]
  simp only [if_pos h, readDigits]

theorem readDigits_digits {n : Nat} (hn : n < numberBound) :
    readDigits 0 (Decimal.digits n) = .ok n := by
  induction n using Nat.strongRecOn with
  | _ n ih =>
    rw [Decimal.digits]
    split
    · next hsmall =>
        rw [readDigits_digit (by omega)]
        exact congrArg Except.ok (by omega)
    · next hlarge =>
        have hvalue : n / 10 * 10 + n % 10 = n := by omega
        rw [readDigits_append (ih (n / 10) (by omega) (by omega)), readDigits_digit (by omega),
          hvalue]

/-- The decimal text of a number is read as the number. -/
theorem readNumber_digits {n : Nat} (hn : n < numberBound) :
    readNumber (Decimal.digits n) = .ok n := by
  have hplain : ∀ c ∈ Decimal.digits n, c ≠ '+' := by
    rintro c hc rfl
    exact absurd (Decimal.isDigit_of_mem_digits hc) (by decide)
  have hread := readDigits_digits hn
  have hne := Decimal.digits_ne_nil n
  generalize Decimal.digits n = cs at hplain hread hne
  cases cs with
  | nil => exact absurd rfl hne
  | cons c cs =>
      have hc : c ≠ '+' := hplain c List.mem_cons_self
      rw [readNumber]
      · exact hread
      · exact List.cons_ne_nil c cs
      · exact fun h => hc (List.cons.inj h).1
      · exact fun _ h => hc (List.cons.inj h).1

/-! ### Choices -/

/-- One flag with a value that it may have. -/
inductive Choice where
  | config (path : Path)
  | mode (mode : Mode)
  | scratch (path : Path)
  | context (lines : Nat)
  | filter (text : String)
  | color (colour : ColourMode)
  | skipBuild
  | failOnDiff
  | verbose
  deriving DecidableEq, Repr

namespace Choice

def flag : Choice → Flag
  | config _ => .config
  | mode _ => .mode
  | scratch _ => .scratch
  | context _ => .context
  | filter _ => .filter
  | color _ => .color
  | skipBuild => .skipBuild
  | failOnDiff => .failOnDiff
  | verbose => .verbose

/-- How the value is written, if the flag takes one. -/
def value : Choice → Option Bytes
  | config path | scratch path => some path.bytes
  | mode m => some (Bytes.ofString m.name)
  | context lines => some (Bytes.ofString (Decimal.text lines))
  | filter text => some (Bytes.ofString text)
  | color colour => some (Bytes.ofString colour.name)
  | skipBuild | failOnDiff | verbose => none

def item (c : Choice) : Item := ⟨c.flag, c.value⟩

def Proper : Choice → Prop
  | config path | scratch path => path.bytes ≠ []
  | context lines => lines < numberBound
  | mode _ | filter _ | color _ | skipBuild | failOnDiff | verbose => True

def apply (a : Arguments) : Choice → Arguments
  | config path => { a with config := some path }
  | mode m => { a with mode := some m }
  | scratch path => { a with scratch := some path }
  | context lines => { a with context := some lines }
  | filter text => { a with filter := some text }
  | color colour => { a with color := colour }
  | skipBuild => { a with skipBuild := true }
  | failOnDiff => { a with failOnDiff := true }
  | verbose => { a with verbose := min (a.verbose + 1) maxCount }

/-- The two may stand on one command line: only a flag that counts may stand there twice. -/
def Together (c d : Choice) : Prop := c.flag = d.flag → c = .verbose ∧ d = .verbose

instance : Std.Symm Together := ⟨fun _ _ h heq => (h heq.symm).symm⟩

/-- The order of two choices of different flags does not matter. -/
theorem apply_comm {c d : Choice} (h : c.flag ≠ d.flag) (a : Arguments) :
    d.apply (c.apply a) = c.apply (d.apply a) := by
  cases c <;> cases d <;> first | rfl | exact absurd rfl h

/-- What choices do together does not depend on their order. -/
theorem foldl_apply_perm {cs ds : List Choice} (hperm : cs.Perm ds)
    (htogether : cs.Pairwise Together) (a : Arguments) :
    cs.foldl apply a = ds.foldl apply a := by
  refine hperm.foldl_eq' (fun c hc d hd a => ?_) a
  by_cases heq : c.flag = d.flag
  · by_cases hsame : c = d
    · rw [hsame]
    · obtain ⟨hc', hd'⟩ := htogether.forall hc hd hsame heq
      exact absurd (hc'.trans hd'.symm) hsame
  · exact apply_comm heq a

end Choice

theorem readPath_bytes (f : Flag) {path : Path} (h : path.bytes ≠ []) :
    readPath f path.bytes = .ok path := by
  rw [readPath, if_neg (by rwa [List.isEmpty_iff])]

theorem readText_ofString (s : String) : readText (Bytes.ofString s) = .ok s := by
  rw [readText, Bytes.text?_ofString]

theorem readChoice_ofString {α : Type} (f : Flag) {ofName? : String → Option α} {name : String}
    {a : α} (hname : Bytes.ofString name ≠ []) (h : ofName? name = some a) :
    readChoice f ofName? (Bytes.ofString name) = .ok a := by
  rw [readChoice, if_neg (by rwa [List.isEmpty_iff]), Bytes.text?_ofString, Option.bind_some, h]

/-- The written value of an option is read back as the value. -/
theorem enter_choice {c : Choice} (hc : c.Proper) (a : Arguments) :
    a.enter c.flag (c.value.getD []) = .ok (c.apply a) := by
  cases c with
  | config path =>
      have hread := readPath_bytes .config hc
      simp only [Choice.flag, Choice.value, Option.getD_some, Arguments.enter, hread]
      rfl
  | scratch path =>
      have hread := readPath_bytes .scratch hc
      simp only [Choice.flag, Choice.value, Option.getD_some, Arguments.enter, hread]
      rfl
  | mode m =>
      have hread : readChoice .mode Mode.ofName? (Bytes.ofString m.name) = .ok m :=
        readChoice_ofString .mode (by cases m <;> decide) (by cases m <;> decide)
      simp only [Choice.flag, Choice.value, Option.getD_some, Arguments.enter, hread]
      rfl
  | color colour =>
      have hread : readChoice .color ColourMode.ofName? (Bytes.ofString colour.name) = .ok colour :=
        readChoice_ofString .color (by cases colour <;> decide) (by cases colour <;> decide)
      simp only [Choice.flag, Choice.value, Option.getD_some, Arguments.enter, hread]
      rfl
  | filter text =>
      simp only [Choice.flag, Choice.value, Option.getD_some, Arguments.enter, readText_ofString]
      rfl
  | context lines =>
      have hread : readNumber (Decimal.text lines).toList = .ok lines := by
        rw [Decimal.text, String.toList_ofList, readNumber_digits hc]
      simp only [Choice.flag, Choice.value, Option.getD_some, Arguments.enter, readText_ofString,
        bind, Except.bind, hread]
      rfl
  | skipBuild => rfl
  | failOnDiff => rfl
  | verbose => rfl

/-- A choice is settled if its flag has not been given before. -/
theorem settle_choice {c : Choice} (hc : c.Proper) {s : Reading}
    (hfresh : c.flag ∈ s.given → c = .verbose) :
    settle c.flag c.value s = .ok () { s with
      given := s.given.erase c.flag ++ [c.flag]
      arguments := c.apply s.arguments } := by
  have hvalue : ¬(c.flag.takesValue = true ∧ c.value.isNone = true) := by
    rintro ⟨htakes, hnone⟩
    cases c <;> first | exact absurd htakes (by decide) | exact absurd hnone Bool.false_ne_true
  have hunused : ¬(c.flag ∈ s.given ∧ c.flag ≠ .verbose) := by
    rintro ⟨hgiven, hne⟩
    exact hne (congrArg Choice.flag (hfresh hgiven))
  rw [settle_eq, if_neg hvalue, if_neg hunused, enter_choice hc]

/-- Choices of different flags are settled one after the other. -/
theorem settleAll_choices {cs : List Choice} (hproper : ∀ c ∈ cs, c.Proper)
    (htogether : cs.Pairwise Choice.Together) {s : Reading}
    (hfresh : ∀ c ∈ cs, c.flag ∈ s.given → c = .verbose) :
    ∃ s', settleAll (cs.map Choice.item) s = .ok () s' ∧
      s'.arguments = cs.foldl Choice.apply s.arguments := by
  induction cs generalizing s with
  | nil => exact ⟨s, rfl, rfl⟩
  | cons c cs ih =>
      obtain ⟨hc, hcs⟩ := List.forall_mem_cons.mp hproper
      obtain ⟨hfirst, hrest⟩ := List.pairwise_cons.mp htogether
      obtain ⟨hunused, hfresh⟩ := List.forall_mem_cons.mp hfresh
      -- No later choice has this flag, unless it is the one that may come again.
      have hsettle := settle_choice hc hunused
      obtain ⟨s', hrun, harguments⟩ := ih hcs hrest (s := { s with
          given := s.given.erase c.flag ++ [c.flag]
          arguments := c.apply s.arguments }) fun d hd hgiven => by
        rcases List.mem_append.mp hgiven with hgiven | hgiven
        · exact hfresh d hd (List.mem_of_mem_erase hgiven)
        · exact (hfirst d hd (List.mem_singleton.mp hgiven).symm).2
      refine ⟨s', ?_, harguments⟩
      rw [List.map_cons, settleAll_cons]
      exact (bind_of_ok hsettle _).trans hrun

/-! ### Requests -/

/-- What may be asked for on a command line: a value for some of the options, some of the switches,
and so many verbosity flags. -/
structure Request where
  config : Option Path := none
  mode : Option Mode := none
  scratch : Option Path := none
  skipBuild : Bool := false
  context : Option Nat := none
  filter : Option String := none
  failOnDiff : Bool := false
  color : Option ColourMode := none
  verbosity : Nat := 0
  deriving DecidableEq, Repr

namespace Request

structure Proper (r : Request) : Prop where
  config : ∀ path ∈ r.config, path.bytes ≠ []
  scratch : ∀ path ∈ r.scratch, path.bytes ≠ []
  context : ∀ lines ∈ r.context, lines < 2 ^ 64

def arguments (r : Request) : Arguments :=
  { config := r.config
    mode := r.mode
    scratch := r.scratch
    skipBuild := r.skipBuild
    context := r.context
    filter := r.filter
    failOnDiff := r.failOnDiff
    color := r.color.getD .auto
    verbose := min r.verbosity 255 }

def choicesOf (r : Request) : Flag → List Choice
  | .config => (r.config.map .config).toList
  | .mode => (r.mode.map .mode).toList
  | .scratch => (r.scratch.map .scratch).toList
  | .skipBuild => if r.skipBuild then [.skipBuild] else []
  | .context => (r.context.map .context).toList
  | .filter => (r.filter.map .filter).toList
  | .failOnDiff => if r.failOnDiff then [.failOnDiff] else []
  | .color => (r.color.map .color).toList
  | .verbose => List.replicate r.verbosity .verbose
  | .help | .version => []

/-- Each chosen option once, each chosen switch once, and the verbosity flags. -/
def choices (r : Request) : List Choice := Flag.all.flatMap r.choicesOf

variable {r : Request}

theorem mem_toList_map {α : Type} {o : Option α} {k : α → Choice} {c : Choice} :
    c ∈ (o.map k).toList ↔ ∃ x ∈ o, k x = c := by
  cases o <;> simp [eq_comm]

/-- A choice has the flag that it is listed for, and a value that is as proper as the request. -/
theorem of_mem_choicesOf {c : Choice} {f : Flag} (h : c ∈ r.choicesOf f) :
    c.flag = f ∧ (r.Proper → c.Proper) := by
  cases f with
  | config =>
      obtain ⟨path, hpath, rfl⟩ := mem_toList_map.mp h
      exact ⟨rfl, fun hr => hr.config path hpath⟩
  | scratch =>
      obtain ⟨path, hpath, rfl⟩ := mem_toList_map.mp h
      exact ⟨rfl, fun hr => hr.scratch path hpath⟩
  | context =>
      obtain ⟨lines, hlines, rfl⟩ := mem_toList_map.mp h
      exact ⟨rfl, fun hr => hr.context lines hlines⟩
  | mode | filter | color =>
      obtain ⟨x, -, rfl⟩ := mem_toList_map.mp h
      exact ⟨rfl, fun _ => trivial⟩
  | skipBuild | failOnDiff =>
      rw [choicesOf, List.mem_ite_nil_right] at h
      rw [List.mem_singleton.mp h.2]
      exact ⟨rfl, fun _ => trivial⟩
  | verbose =>
      rw [List.eq_of_mem_replicate h]
      exact ⟨rfl, fun _ => trivial⟩
  | help | version => exact absurd h List.not_mem_nil

theorem Proper.of_mem_choices (hr : r.Proper) : ∀ c ∈ r.choices, c.Proper := by
  intro c hc
  obtain ⟨f, -, hf⟩ := List.mem_flatMap.mp hc
  exact (of_mem_choicesOf hf).2 hr

/-- A request asks for no flag twice that does not count. -/
theorem together_choices (r : Request) : r.choices.Pairwise Choice.Together := by
  rw [choices, List.pairwise_flatMap]
  constructor
  · intro f _
    cases f with
    | config | mode | scratch | context | filter | color =>
        exact Option.pairwise_toList
    | skipBuild | failOnDiff =>
        rw [choicesOf]
        split <;> simp
    | verbose => exact List.pairwise_replicate.mpr (.inr fun _ => ⟨rfl, rfl⟩)
    | help | version => exact List.Pairwise.nil
  · have hdistinct : Flag.all.Pairwise (· ≠ ·) := by decide
    refine hdistinct.imp fun hfg c hc d hd heq => ?_
    rw [(of_mem_choicesOf hc).1, (of_mem_choicesOf hd).1] at heq
    exact absurd heq hfg

theorem foldl_verbose {a : Arguments} (ha : a.verbose ≤ maxCount) (n : Nat) :
    (List.replicate n Choice.verbose).foldl Choice.apply a
      = { a with verbose := min (a.verbose + n) maxCount } := by
  induction n generalizing a with
  | zero => rw [Nat.add_zero, Nat.min_eq_left ha]; rfl
  | succ n ih =>
      have hnext : (Choice.verbose.apply a).verbose ≤ maxCount := Nat.min_le_right _ _
      have hcount : min (min (a.verbose + 1) maxCount + n) maxCount
          = min (a.verbose + (n + 1)) maxCount := by omega
      rw [List.replicate_succ, List.foldl_cons, ih hnext]
      simp only [Choice.apply, hcount]

/-- All choices together tell the program what is asked for. -/
theorem foldl_choices (r : Request) :
    r.choices.foldl Choice.apply {} = r.arguments := by
  obtain ⟨config, mode, scratch, skipBuild, context, filter, failOnDiff, color, verbosity⟩ := r
  -- The list goes through the flags in order, and each sets its own field; fields not reached yet
  -- have their defaults.
  have hconfig : (config.map .config).toList.foldl Choice.apply {} = { config } := by
    cases config <;> rfl
  have hmode : (mode.map .mode).toList.foldl Choice.apply { config } = { config, mode } := by
    cases mode <;> rfl
  have hscratch : (scratch.map .scratch).toList.foldl Choice.apply { config, mode }
      = { config, mode, scratch } := by
    cases scratch <;> rfl
  have hskipBuild : (if skipBuild then [Choice.skipBuild] else []).foldl Choice.apply
      { config, mode, scratch } = { config, mode, scratch, skipBuild } := by
    cases skipBuild <;> rfl
  have hcontext : (context.map .context).toList.foldl Choice.apply
      { config, mode, scratch, skipBuild } = { config, mode, scratch, skipBuild, context } := by
    cases context <;> rfl
  have hfilter : (filter.map .filter).toList.foldl Choice.apply
      { config, mode, scratch, skipBuild, context }
      = { config, mode, scratch, skipBuild, context, filter } := by
    cases filter <;> rfl
  have hfailOnDiff : (if failOnDiff then [Choice.failOnDiff] else []).foldl Choice.apply
      { config, mode, scratch, skipBuild, context, filter }
      = { config, mode, scratch, skipBuild, context, filter, failOnDiff } := by
    cases failOnDiff <;> rfl
  have hcolor : (color.map .color).toList.foldl Choice.apply
      { config, mode, scratch, skipBuild, context, filter, failOnDiff }
      = { config, mode, scratch, skipBuild, context, filter, failOnDiff,
          color := color.getD .auto } := by
    cases color <;> rfl
  simp only [choices, Flag.all, List.flatMap_cons, List.flatMap_nil, List.foldl_append, choicesOf,
    List.foldl_nil]
  rw [hconfig, hmode, hscratch, hskipBuild, hcontext, hfilter, hfailOnDiff, hcolor,
    foldl_verbose (Nat.zero_le _), Nat.zero_add]
  rfl

end Request

/-! ### Command lines -/

/-- However a request is spelled, it is what the program is told. -/
theorem parse_request {r : Request} (hr : r.Proper) {choices : List Choice} {argv : List Bytes}
    (hperm : choices.Perm r.choices) (h : Spelled (choices.map Choice.item) argv) :
    parse argv = .ok r.arguments := by
  have hproper : ∀ c ∈ choices, c.Proper := fun c hc =>
    hr.of_mem_choices c (hperm.mem_iff.mp hc)
  have htogether : choices.Pairwise Choice.Together :=
    hperm.symm.pairwise r.together_choices fun h => Std.Symm.symm _ _ h
  obtain ⟨s', hrun, harguments⟩ := settleAll_choices hproper htogether (s := {})
    fun _ _ hgiven => absurd hgiven List.not_mem_nil
  rw [parse_spelled_eq h, hrun]
  simp only [harguments, Choice.foldl_apply_perm hperm htogether, Request.foldl_choices]

/-- A flag that does not count and stands twice is a problem, and it is the one that is reported
if what stands before can be read. -/
theorem parse_repeated {items rest : List Item} {f : Flag} {value : Option Bytes}
    {argv : List Bytes} (h : Spelled (items ++ ⟨f, value⟩ :: rest) argv) (hf : f ≠ .verbose)
    (hgiven : f ∈ items.map Item.flag) :
    ∃ problem, parse argv = .error problem ∧
      ∀ choices : List Choice, items = choices.map Choice.item → (∀ c ∈ choices, c.Proper) →
        choices.Pairwise Choice.Together → problem = .repeated f := by
  rw [parse_spelled_eq h, settleAll_append]
  cases hrun : settleAll items {} with
  | error problem s =>
      -- Something before the second one cannot be read, and that is reported first.
      rw [bind_eq_error.mpr (.inl hrun)]
      refine ⟨problem, rfl, ?_⟩
      rintro choices rfl hproper htogether
      obtain ⟨s', hok, -⟩ := settleAll_choices hproper htogether (s := {})
        fun _ _ hgiven => absurd hgiven List.not_mem_nil
      rw [hrun] at hok
      cases hok
  | ok _ s =>
      have hvalue : ¬(f.takesValue = true ∧ value.isNone = true) := by
        rintro ⟨htakes, hnone⟩
        have hsome := h.isSome_value ⟨f, value⟩ (by simp) htakes
        rw [Option.isNone_iff_eq_none.mp hnone] at hsome
        cases hsome
      have hrepeated :
          settle f value s = .error (.repeated f) { s with given := s.given.erase f } := by
        rw [settle_eq, if_neg hvalue, if_pos ⟨mem_given_of_settleAll hrun (.inr hgiven), hf⟩]
      rw [bind_of_ok hrun, settleAll_cons, bind_eq_error.mpr (.inl hrepeated)]
      exact ⟨_, rfl, fun _ _ _ _ => rfl⟩

/-- **Command lines.** Every choice of options, switches and verbosity flags is read back from every
command line that writes out each of them, in any order and spelling, and a flag other than
`--verbose` that stands twice is a problem. -/
theorem parse_spelled :
    (∀ (r : Request) (choices : List Choice) (argv : List Bytes), r.Proper →
      choices.Perm r.choices → Spelled (choices.map Choice.item) argv →
        parse argv = .ok r.arguments) ∧
    (∀ (items rest : List Item) (f : Flag) (value : Option Bytes) (argv : List Bytes),
      Spelled (items ++ ⟨f, value⟩ :: rest) argv → f ≠ .verbose → f ∈ items.map Item.flag →
        ∃ problem, parse argv = .error problem ∧
          ∀ choices : List Choice, items = choices.map Choice.item → (∀ c ∈ choices, c.Proper) →
            choices.Pairwise Choice.Together → problem = .repeated f) :=
  ⟨fun _ _ _ hr hperm h => parse_request hr hperm h, fun _ _ _ _ _ h hf hgiven =>
    parse_repeated h hf hgiven⟩

/-- A value that looks like a flag stands behind an equals sign, verbosity flags stand between the
options, and then an option comes again. -/
theorem parse_spelled_mixed :
    let r : Request := { filter := some "--mode=lexer", context := some 3, verbosity := 3 }
    let choices : List Choice :=
      [.filter "--mode=lexer", .verbose, .verbose, .context 3, .verbose]
    let argv : List Bytes := ["--filter=--mode=lexer", "-vv", "--context", "3", "--verbose"].map
      Bytes.ofString
    (r.Proper ∧ choices.Perm r.choices ∧ Spelled (choices.map Choice.item) argv ∧
      parse argv = .ok { filter := some "--mode=lexer", context := some 3, verbose := 3 }) ∧
    ∃ problem, parse (argv ++ ["--context=4"].map Bytes.ofString) = .error problem := by
  intro r choices argv
  have hproper : r.Proper := by
    refine ⟨?_, ?_, ?_⟩ <;> intro x hx <;> cases hx
    decide
  have hperm : choices.Perm r.choices := by decide
  have hthree : Decimal.text 3 = "3" := by rw [Decimal.text, Decimal.digits]; rfl
  have hitems : choices.map Choice.item = [⟨.filter, some (Bytes.ofString "--mode=lexer")⟩,
      ⟨.verbose, none⟩, ⟨.verbose, none⟩, ⟨.context, some (Bytes.ofString "3")⟩,
      ⟨.verbose, none⟩] := by
    simp only [choices, List.map_cons, List.map_nil, Choice.item, Choice.flag, Choice.value, hthree]
  have hargv : argv = [longName .filter ++ equalsSign :: Bytes.ofString "--mode=lexer",
      dash :: List.replicate 2 verboseLetter, longName .context, Bytes.ofString "3",
      longName .verbose] := by decide
  have hagain : ["--context=4"].map Bytes.ofString
      = [longName .context ++ equalsSign :: Bytes.ofString "4"] := by decide
  have hspelled : ∀ {items : List Item} {more : List Bytes}, Spelled items more →
      Spelled (⟨.filter, some (Bytes.ofString "--mode=lexer")⟩ :: ⟨.verbose, none⟩ ::
          ⟨.verbose, none⟩ :: ⟨.context, some (Bytes.ofString "3")⟩ :: ⟨.verbose, none⟩ :: items)
        ((longName .filter ++ equalsSign :: Bytes.ofString "--mode=lexer") ::
          (dash :: List.replicate 2 verboseLetter) :: longName .context :: Bytes.ofString "3" ::
          longName .verbose :: more) := fun hmore =>
    .joined rfl _ (.letters 1 (.apart rfl (by decide) (.switch rfl rfl hmore)))
  have hmixed : Spelled (choices.map Choice.item) argv := by
    rw [hitems, hargv]
    exact hspelled .nil
  refine ⟨⟨hproper, hperm, hmixed, parse_spelled.1 r choices argv hproper hperm hmixed⟩, ?_⟩
  obtain ⟨problem, hproblem, -⟩ := parse_spelled.2 (choices.map Choice.item) [] .context
    (some (Bytes.ofString "4")) (argv ++ ["--context=4"].map Bytes.ofString)
    (by rw [hitems, hargv, hagain]; exact hspelled (.joined rfl _ .nil)) (by decide)
    (by rw [hitems]; decide)
  exact ⟨problem, hproblem⟩

end TwinRun.CommandLine
