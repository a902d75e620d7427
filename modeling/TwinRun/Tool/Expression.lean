import TwinRun.Tool.Regex.Reader
import TwinRun.Tool.Basic

/-!
Evaluating expressions given as arguments.

A value is a text; it counts as a number where it looks like one. Operations bind in six levels,
those of a level from left to right. A side that does not count is read but not evaluated.
-/

namespace TwinRun.Tool

namespace Expression

/-- Reading an expression: the arguments that have been read, backwards, and those to come. -/
abbrev Reading := StateT (List Letters × List Letters) Job

/-- Whether a value counts as nothing: empty, or zeros with a sign or without one. -/
def isNull (t : Letters) : Bool :=
  let ds := if t.head? = some '-' then t.drop 1 else t
  t.isEmpty || (!ds.isEmpty && ds.all (· == '0'))

def number? (t : Letters) : Option Int := if t.head? = some '+' then none else Letters.int? t

def refuse {α : Type} (message : Letters) (code : Nat := 2) : Reading α :=
  monadLift (Tool.fail message code : Job α)

def number (t : Letters) : Reading Int :=
  match number? t with
  | some n => pure n
  | none => refuse "non-integer argument".toList

def take : Reading Letters := do
  match ← get with
  | (before, t :: rest) => set (t :: before, rest); return t
  | (before, []) =>
      refuse ("syntax error: missing argument after ".toList ++ quote (before.headD []))

/-- Takes the next argument if it is one of some operators. -/
def operator? (operators : List String) : Reading (Option String) := do
  match (← get).2 with
  | t :: _ =>
      match operators.find? (·.toList == t) with
      | some o => let _ ← take; return some o
      | none => return none
  | [] => return none

/-- Matches a text from its start. The value is what the first group has matched, or else how much
has been matched. -/
def matched (t pattern : Letters) : Reading Letters := do
  match Regex.read { extended := false, escapes := false, strict := true } pattern with
  | .error p => refuse p.message
  | .ok r =>
      let reached := (r.ends {} r.looksBack { place := 0, previous := none, rest := t }).head?
      return if r.groupCount > 0 then (reached.bind fun a => a.groups.lookup 1).getD []
        else Letters.ofNat ((reached.map (·.place)).getD 0)

/-- The place of the first letter of a text that is among others; zero if there is none. -/
def placeOf (t others : Letters) : Letters :=
  Letters.ofNat ((t.findIdx? others.contains).elim 0 (· + 1))

/-- The part of a text from a place on. -/
def part (t place length : Letters) : Letters :=
  match number? place, number? length with
  | some p, some n => if p ≤ 0 ∨ n ≤ 0 then [] else (t.drop (p.toNat - 1)).take n.toNat
  | _, _ => []

/-- Compares two values: as numbers, if both are. -/
def holds (o : String) (a b : Letters) : Bool :=
  let order := match number? a, number? b with
    | some m, some n => compare m n
    | _, _ => if a = b then .eq else if Letters.le a b then .lt else .gt
  match o with
  | "<" => order == .lt
  | "<=" => order != .gt
  | "=" | "==" => order == .eq
  | "!=" => order != .eq
  | ">=" => order != .lt
  | _ => order == .gt

/-- What an operation makes of two values. -/
def apply (o : String) (a b : Letters) : Reading Letters := do
  match o with
  | ":" => matched a b
  | "+" => return Letters.ofInt ((← number a) + (← number b))
  | "-" => return Letters.ofInt ((← number a) - (← number b))
  | "*" => return Letters.ofInt ((← number a) * (← number b))
  | "/" | "%" =>
      let m ← number a
      let n ← number b
      if n = 0 then refuse "division by zero".toList
      return Letters.ofInt (if o = "/" then m.tdiv n else m.tmod n)
  | "&" => return if isNull a || isNull b then ['0'] else a
  | "|" => return if !isNull a then a else if isNull b then ['0'] else b
  | o => return if holds o a b then ['1'] else ['0']

/-- The operations, those that bind least first. -/
def levels : List (List String) :=
  [["|"], ["&"], ["<", "<=", "=", "==", "!=", ">=", ">"], ["+", "-"], ["*", "/", "%"], [":"]]

/-- Whether the second side of an operation counts. -/
def counts (o : String) (a : Letters) : Bool :=
  match o with
  | "|" => isNull a
  | "&" => !isNull a
  | _ => true

/-- More operations than there are on one level. -/
def maxOperations : Nat := 100000

/-- Reads operations of a level behind a first value. -/
def readLevel (evaluated : Bool) (side : Bool → Reading Letters) (operators : List String) :
    (fuel : Nat) → Letters → Reading Letters
  | 0, a => return a
  | fuel + 1, a => do
      match ← operator? operators with
      | none => return a
      | some o =>
          let b ← side (evaluated && counts o a)
          readLevel evaluated side operators fuel (← if evaluated then apply o a b else pure [])

mutual

def readLevels : (fuel : Nat) → (evaluated : Bool) → List (List String) → Reading Letters
  | 0, _, _ => refuse "memory exhausted".toList 3
  | fuel + 1, evaluated, [] => readOperand fuel evaluated
  | fuel + 1, evaluated, operators :: more => do
      let side (evaluated : Bool) : Reading Letters := readLevels fuel evaluated more
      readLevel evaluated side operators maxOperations (← side evaluated)

/-- Reads an operand: a value, a function of values, or an expression in parentheses. -/
def readOperand : (fuel : Nat) → (evaluated : Bool) → Reading Letters
  | 0, _ => refuse "memory exhausted".toList 3
  | fuel + 1, evaluated => do
      match ← operator? ["(", ")", "+", "length", "match", "index", "substr"] with
      | some "(" =>
          let a ← readLevels fuel evaluated levels
          let expected : Letters := "syntax error: expecting ".toList ++ quote [')']
          match ← get with
          | (before, []) => refuse (expected ++ " after ".toList ++ quote (before.headD []))
          | (_, t :: _) =>
              if t ≠ [')'] then refuse (expected ++ " instead of ".toList ++ quote t)
              let _ ← take
              return a
      | some ")" => refuse ("syntax error: unexpected ".toList ++ quote [')'])
      | some "+" => take
      | some "length" => return Letters.ofNat (← readOperand fuel evaluated).length
      | some "match" =>
          let a ← readOperand fuel evaluated
          let b ← readOperand fuel evaluated
          if evaluated then matched a b else return []
      | some "index" =>
          let a ← readOperand fuel evaluated
          return placeOf a (← readOperand fuel evaluated)
      | some "substr" =>
          let a ← readOperand fuel evaluated
          let b ← readOperand fuel evaluated
          return part a b (← readOperand fuel evaluated)
      | _ => take

end

end Expression

open Expression in
def expr : Program := fun args => do
  let args := match args with
    | ['-', '-'] :: args => args
    | args => args
  if args.isEmpty then misuse "missing operand".toList 2
  let (value, _, rest) ← (readLevels (8 * args.length + 8) true levels).run ([], args)
  match rest with
  | t :: _ => fail ("syntax error: unexpected argument ".toList ++ quote t) 2
  | [] =>
      emitLine value
      if isNull value then endWith 1

end TwinRun.Tool
