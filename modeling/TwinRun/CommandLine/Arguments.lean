import TwinRun.CommandLine.Problem
import TwinRun.Text.Decimal

/-!
Reading the command line.

A value follows its flag as the next argument, behind an equals sign or, for a letter, right
behind it. Letters of switches may be joined. A flag that waits for its value is settled when
the next flag comes or the arguments end, so the first problem from the left is reported,
unless an unknown argument follows.
-/

namespace TwinRun.CommandLine

structure Arguments where
  config : Option Path := none
  mode : Option Mode := none
  scratch : Option Path := none
  skipBuild : Bool := false
  context : Option Nat := none
  filter : Option String := none
  failOnDiff : Bool := false
  color : ColourMode := .auto
  verbose : Nat := 0
  deriving DecidableEq, Repr

/-! ### Values -/

def readText (b : Bytes) : Except Problem String :=
  match b.text? with
  | some s => .ok s
  | none => .error .notText

/-- A path has at least one byte. -/
def readPath (f : Flag) (b : Bytes) : Except Problem Path :=
  if b.isEmpty then .error (.missingValue f) else .ok ⟨b⟩

def readChoice {α : Type} (f : Flag) (ofName? : String → Option α) (b : Bytes) :
    Except Problem α :=
  if b.isEmpty then .error (.missingValue f)
  else match b.text?.bind ofName? with
    | some a => .ok a
    | none => .error (.badChoice f b.lossy)

/-- The least number that is too large. -/
def numberBound : Nat := Nat.pow 2 64

/-- Reads digits behind a value, from left to right. -/
def readDigits (value : Nat) : List Char → Except NumberProblem Nat
  | [] => .ok value
  | c :: rest =>
      match Decimal.read? [c] with
      | none => .error .badDigit
      | some d =>
          let next := value * 10 + d
          if next < numberBound then readDigits next rest else .error .tooLarge

/-- Reads a natural number; a plus sign may stand in front. -/
def readNumber : List Char → Except NumberProblem Nat
  | [] => .error .empty
  | ['+'] => .error .badDigit
  | '+' :: digits => readDigits 0 digits
  | digits => readDigits 0 digits

/-- The greatest count of a flag that may be repeated. -/
def maxCount : Nat := 255

def Arguments.enter (a : Arguments) (f : Flag) (value : Bytes) : Except Problem Arguments := do
  match f with
  | .config => return { a with config := some (← readPath f value) }
  | .mode => return { a with mode := some (← readChoice f Mode.ofName? value) }
  | .scratch => return { a with scratch := some (← readPath f value) }
  | .context =>
      let text ← readText value
      match readNumber text.toList with
      | .ok n => return { a with context := some n }
      | .error problem => throw (.badNumber f text problem)
  | .filter => return { a with filter := some (← readText value) }
  | .color => return { a with color := ← readChoice f ColourMode.ofName? value }
  | .skipBuild => return { a with skipBuild := true }
  | .failOnDiff => return { a with failOnDiff := true }
  | .verbose => return { a with verbose := min (a.verbose + 1) maxCount }
  | .help | .version => return a

/-! ### Flags -/

/-- The state between two arguments. -/
structure Reading where
  arguments : Arguments := {}
  /-- The flags given so far, in order; one that may be repeated counts where it stood last. -/
  given : List Flag := []
  /-- A flag that is not settled yet, and its value once that is known. -/
  pending : Option (Flag × Option Bytes) := none
  deriving DecidableEq, Repr

/-- A step of reading. What was read before a problem stays known. -/
abbrev Step := EStateM Problem Reading

/-- Settles a flag: it needs a value if it takes one and may be given once, unless it counts. -/
def settle (f : Flag) (value : Option Bytes) : Step Unit := do
  if f.takesValue ∧ value.isNone then throw (.missingValue f)
  let r ← get
  if f ∈ r.given ∧ f ≠ .verbose then
    set { r with given := r.given.erase f }
    throw (.repeated f)
  set { r with given := r.given.erase f ++ [f] }
  match r.arguments.enter f (value.getD []) with
  | .ok arguments => modify fun r => { r with arguments }
  | .error problem => throw problem

/-- Settles the flag that waits, if there is one. -/
def settlePending : Step Unit := do
  match (← get).pending with
  | some (f, value) =>
      modify fun r => { r with pending := none }
      settle f value
  | none => return

/-- Settles the flag that waits whatever comes of it, before another problem is reported. -/
def abandonPending : Step Unit := tryCatch settlePending fun _ => return

/-- A flag with the value attached to it, if any, `long` if given by its long name. -/
def meet (f : Flag) (long : Bool) (value : Option Bytes) : Step Unit := do
  settlePending
  match f with
  | .help => throw (.help long)
  | .version => throw .version
  | _ =>
      if f.takesValue ∧ value.isNone then modify fun r => { r with pending := some (f, none) }
      else settle f value

def refuse (argument : String) : Step Unit := do
  abandonPending
  throw (.unknown argument none [])

/-- The sign between a flag and its value. -/
def equalsSign : UInt8 := 61

def dash : UInt8 := 45

/-- An argument behind two dashes: a name and, behind an equals sign, a value. -/
def readLong (b : Bytes) : Step Unit := do
  let name : Bytes := b.takeWhile (· ≠ equalsSign)
  let value : Option Bytes := if name.length < b.length then some (b.drop (name.length + 1)) else none
  match name.text?.bind Flag.ofLong?, value with
  | some f, some value =>
      if f.takesValue then meet f true (some value)
      else
        let given := (← get).given
        abandonPending
        throw (.unexpectedValue f value.lossy given)
  | some f, none => meet f true none
  | none, _ =>
      abandonPending
      let similar := (mostSimilar? name.lossy (Flag.all.map Flag.long)).bind Flag.ofLong?
      throw (.unknown ("--" ++ name.lossy) similar (← get).given)

/-- The character that a byte string starts with, unless it starts ill-formed. -/
def firstChar? (b : Bytes) : Option Char :=
  [1, 2, 3, 4].findSome? fun n => (Bytes.text? (b.take n)).bind fun s => s.toList.head?

/-- Letters behind one dash. The first flag that takes a value takes what is left, without
an equals sign in front. -/
def readShort : Bytes → Step Unit
  | [] => return
  | b :: rest => do
      match firstChar? (b :: rest) with
      | none => refuse ("-" ++ Bytes.lossy (b :: rest))
      | some letter =>
          match Flag.ofShort? letter with
          | none => refuse ("-" ++ String.singleton letter)
          | some f =>
              if f.takesValue then
                let value := if rest.head? == some equalsSign then rest.tail else rest
                meet f false (if rest.isEmpty then none else some value)
              else
                meet f false none
                readShort rest

/-- An argument that is no flag is the value of the flag that waits for one. -/
def readValue (b : Bytes) : Step Unit := do
  match (← get).pending with
  | some (f, none) => modify fun r => { r with pending := some (f, some b) }
  | _ => refuse b.lossy

/-- One argument. A dash alone is no flag. -/
def readArgument (b : Bytes) : Step Unit :=
  match b with
  | first :: second :: rest =>
      if first ≠ dash then readValue b
      else if second = dash then readLong rest
      else readShort (second :: rest)
  | _ => readValue b

/-- Two dashes alone: no flags follow. -/
def endOfFlags : Bytes := [dash, dash]

/-- All arguments. None may stand behind the end of the flags. -/
def readAll : List Bytes → Step Unit
  | [] => settlePending
  | b :: rest =>
      if b = endOfFlags then
        match rest with
        | [] => settlePending
        | extra :: _ => refuse extra.lossy
      else do
        readArgument b
        readAll rest

/-- Reads the command line, without the name of the program. -/
def parse (argv : List Bytes) : Except Problem Arguments :=
  match (readAll argv).run {} with
  | .ok _ r => .ok r.arguments
  | .error problem _ => .error problem

end TwinRun.CommandLine
