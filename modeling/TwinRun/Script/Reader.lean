import TwinRun.Script.Syntax
import TwinRun.Script.Token

/-!
A script on its way to the parser.

The letters come from the script or, in between, from the value of an alias; lines are counted
as they are read. Texts that stand in the script are read at the next line end, and kept by
number until they are needed.
-/

namespace TwinRun.Script

structure Segment where
  rest : Letters
  /-- The alias whose value this is. -/
  alias? : Option Letters := none
  /-- The value ends in a blank: the next word may be an alias, too. -/
  spaced : Bool := false
  deriving Repr

/-- A text that is still to be read from the script. -/
structure PendingText where
  number : Nat
  /-- The line it ends with. -/
  mark : Letters
  /-- Tabs at the start of its lines are dropped. -/
  dropsTabs : Bool
  /-- Parameters in it are expanded. -/
  expands : Bool
  deriving Repr

inductive OpenRedirection where
  | file (descriptor : Nat) (direction : Direction)
  | copy (descriptor : Nat)
  /-- A text in the script. -/
  | text (descriptor : Nat) (dropsTabs : Bool)
  deriving Repr

structure Reader where
  segments : List Segment
  line : Nat := 1
  /-- The token read last. -/
  token : Token := .newline
  /-- It is to be read again. -/
  pushedBack : Bool := false
  checks : Checks := {}
  /-- The word read last, and whether any of it was quoted. -/
  word : Word := []
  quoted : Bool := false
  /-- The redirection read last. -/
  redirection : OpenRedirection := .copy 0
  pending : List PendingText := []
  texts : List (Nat × Word) := []
  nextText : Nat := 0
  aliases : List (Letters × Letters) := []
  /-- Aliases in whose values we are. -/
  busy : List Letters := []

/-- What is wrong with a script, and where. -/
structure SyntaxError where
  line : Nat
  message : Letters
  deriving Repr

abbrev Reading := EStateM SyntaxError Reader

namespace Reading

def fail {α : Type} (message : String) : Reading α := do
  throw ⟨(← get).line, Letters.ofString message⟩

def unexpected {α : Type} (expected : Option Token) : Reading α := do
  let got := (← get).token.shown ++ " unexpected"
  match expected with
  | none => fail ("Syntax error: " ++ got)
  | some t => fail ("Syntax error: " ++ got ++ " (expecting " ++ t.shown ++ ")")

/-- Goes on until a round ends with a result. -/
def loop {α β : Type} (round : α → Reading (α ⊕ β)) : (most : Nat) → α → Reading β
  | 0, _ => fail "Syntax error: script too long"
  | most + 1, a => do
      match ← round a with
      | .inl a => loop round most a
      | .inr b => return b

/-- More rounds than any script has letters. -/
def maxRounds : Nat := 1000000000000

/-! ### Letters -/

/-- The next letter and what follows, with the aliases that have ended before it. -/
def nextLetter : List Segment → List Segment → Option (Char × List Segment) × List Segment
  | ended, [] => (none, ended)
  | ended, s :: more =>
      match s.rest with
      | c :: rest => (some (c, { s with rest } :: more), ended)
      | [] => nextLetter (if more.isEmpty then ended else s :: ended) more

/-- Takes the next letter; nothing at the end. -/
def take : Reading (Option Char) := do
  let r ← get
  match r.segments with
  | s :: more =>
      match s.rest with
      | c :: rest =>
          set { r with segments := { s with rest } :: more }
          return some c
      | [] =>
          let (next, ended) := nextLetter [] r.segments
          let busy := r.busy.filter fun name => !ended.any (·.alias? == some name)
          let checks := if ended.any (·.spaced) then { r.checks with aliases := true } else r.checks
          match next with
          | some (c, segments) => set { r with segments, busy, checks }; return some c
          | none =>
              set { r with segments := r.segments.getLast?.toList, busy, checks }
              return none
  | [] => return none

def giveBack (c : Option Char) : Reading Unit :=
  modify fun r =>
    match c, r.segments with
    | some c, s :: more => { r with segments := { s with rest := c :: s.rest } :: more }
    | some c, [] => { r with segments := [{ rest := [c] }] }
    | none, _ => r

def nextLine : Reading Unit := modify fun r => { r with line := r.line + 1 }

/-- Takes the next letter, joining lines that end in a backslash. -/
def takeJoined : Reading (Option Char) :=
  loop (fun _ => do
    let c ← take
    if c ≠ some '\\' then return .inr c
    let d ← take
    if d = some '\n' then
      nextLine
      return .inl ()
    giveBack d
    return .inr c) maxRounds ()

/-- Takes letters as long as they are of a kind. -/
def takeWhile (kind : Char → Bool) : Reading (Letters × Option Char) :=
  loop (fun taken => do
    match ← takeJoined with
    | some c => return if kind c then .inl (c :: taken) else .inr (taken.reverse, some c)
    | none => return .inr (taken.reverse, none)) maxRounds []

def upcoming : Reading Letters := do return (← get).segments.flatMap (·.rest)

def dropLetters (n : Nat) : Reading Unit := do
  let rest := (← upcoming).drop n
  modify fun r => { r with segments := [{ rest }] }

/-! ### Tokens -/

def found (t : Token) : Reading Token := do
  modify fun r => { r with token := t }
  return t

def again : Reading Unit := modify fun r => { r with pushedBack := true }

def check (checks : Checks) : Reading Unit := modify fun r => { r with checks }

end Reading

end TwinRun.Script
