import TwinRun.Script.Syntax

/-!
Arithmetic on words of 64 bits.

An expression is read and evaluated in one go. The side of `&&`, `||` and `?:` that does not
count is read only: no name in it is looked up or assigned, and nothing is divided.
-/

namespace TwinRun.Script.Arithmetic

inductive Binary where
  | times | over | modulo
  | plus | minus
  | shiftLeft | shiftRight
  | less | atMost | greater | atLeast
  | equal | unequal
  | bitAnd
  | bitXor
  | bitOr
  deriving DecidableEq, Repr

namespace Binary

def looseness : Binary → Nat
  | .times | .over | .modulo => 0
  | .plus | .minus => 1
  | .shiftLeft | .shiftRight => 2
  | .less | .atMost | .greater | .atLeast => 3
  | .equal | .unequal => 4
  | .bitAnd => 5
  | .bitXor => 6
  | .bitOr => 7

end Binary

inductive Token where
  | number (n : Int64)
  | name (t : Letters)
  | binary (o : Binary)
  /-- An assignment, of a value alone or of the old one changed by it. -/
  | assign (change : Option Binary)
  | and
  | or
  | not
  | complement
  | question
  | colon
  | leftParen
  | rightParen
  | finish
  | bad
  deriving DecidableEq, Repr

/-- The operators, the longer ones first. -/
def operators : List (String × Token) := [
  ("<<=", .assign (some .shiftLeft)), (">>=", .assign (some .shiftRight)),
  ("&&", .and), ("||", .or), ("==", .binary .equal), ("!=", .binary .unequal),
  ("<=", .binary .atMost), (">=", .binary .atLeast), ("<<", .binary .shiftLeft),
  (">>", .binary .shiftRight), ("+=", .assign (some .plus)), ("-=", .assign (some .minus)),
  ("*=", .assign (some .times)), ("/=", .assign (some .over)), ("%=", .assign (some .modulo)),
  ("&=", .assign (some .bitAnd)), ("|=", .assign (some .bitOr)), ("^=", .assign (some .bitXor)),
  ("+", .binary .plus), ("-", .binary .minus), ("*", .binary .times), ("/", .binary .over),
  ("%", .binary .modulo), ("<", .binary .less), (">", .binary .greater), ("&", .binary .bitAnd),
  ("|", .binary .bitOr), ("^", .binary .bitXor), ("!", .not), ("~", .complement),
  ("?", .question), (":", .colon), ("(", .leftParen), (")", .rightParen), ("=", .assign none)]

def digitValue (c : Char) : Nat :=
  if c.isDigit then c.toNat - '0'.toNat
  else if 'a' ≤ c ∧ c ≤ 'z' then c.toNat - 'a'.toNat + 10
  else if 'A' ≤ c ∧ c ≤ 'Z' then c.toNat - 'A'.toNat + 10
  else 36

/-- The number at the start of a text, decimal, octal or hexadecimal, and what follows it. -/
def leadingNumber (t : Letters) : Nat × Letters :=
  let inBase (base : Nat) (t : Letters) : Nat × Letters :=
    let digits := t.takeWhile fun c => digitValue c < base
    (digits.foldl (fun n c => n * base + digitValue c) 0, t.drop digits.length)
  match t with
  | '0' :: x :: d :: rest =>
      if (x = 'x' ∨ x = 'X') ∧ digitValue d < 16 then inBase 16 (d :: rest) else inBase 8 t
  | '0' :: _ => inBase 8 t
  | _ => inBase 10 t

def greatest : Nat := 9223372036854775807

/-- The next token of a text, and what follows it. -/
def nextToken (t : Letters) : Token × Letters :=
  match t.dropWhile fun c => c == ' ' || c == '\t' || c == '\n' with
  | [] => (.finish, [])
  | c :: rest =>
      if c.isDigit then
        let (n, after) := leadingNumber (c :: rest)
        (.number (Int64.ofNat (min n greatest)), after)
      else if startsName c then
        let name := (c :: rest).takeWhile isNameLetter
        (.name name, (c :: rest).drop name.length)
      else match operators.find? fun o => o.1.toList.isPrefixOf (c :: rest) with
        | some (o, t) => (t, (c :: rest).drop o.length)
        | none => (.bad, c :: rest)

/-- The number that a text spells, with blanks around it. -/
def number? (t : Letters) : Option Int64 :=
  let (negative, body) := match t.dropWhile Letters.isSpace with
    | '-' :: body => (true, body)
    | '+' :: body => (false, body)
    | body => (false, body)
  let (n, rest) := leadingNumber body
  let noDigit := !(body.head?.any Char.isDigit)
  let rest := if noDigit then t else rest
  if rest.all Letters.isSpace then
    if n > greatest then
      if negative ∧ n = greatest + 1 then some Int64.minValue else none
    else some (if noDigit then 0 else if negative then -(Int64.ofNat n) else Int64.ofNat n)
  else none

/-! ### Evaluation -/

/-- An evaluation: the text to come, one token ahead of it, and what has been assigned. -/
structure Evaluation where
  rest : Letters
  ahead : Token := .finish
  /-- What has been assigned, the latest first. -/
  assigned : List (Letters × Int64) := []

/-- What an evaluation asks of the shell. -/
structure Names where
  value? : Letters → Option Letters
  /-- Names that may not be assigned. -/
  locked : Letters → Bool
  /-- The expression as it was given. -/
  whole : Letters

abbrev Eval := StateT Evaluation (Except Letters)

variable (names : Names)

def fail {α : Type} (what : String) : Eval α :=
  throw ("arithmetic expression: ".toList ++ what.toList ++ ": \"".toList ++ names.whole ++ ['"'])

def read : Eval Token := do
  let e ← get
  let (t, rest) := nextToken e.rest
  set { e with rest }
  return t

/-- Reads the first token of an operand and looks at the one after it. -/
def operand : Eval Token := do
  let t ← read
  let ahead ← read
  modify fun e => { e with ahead }
  return t

def valueOf (x : Letters) : Eval Int64 := do
  match (← get).assigned.lookup x with
  | some n => return n
  | none =>
      let t := (names.value? x).getD []
      match number? t with
      | some n => return n
      | none => throw ("Illegal number: ".toList ++ t)

def truth (b : Bool) : Int64 := if b then 1 else 0

def apply (o : Binary) (a b : Int64) : Eval Int64 :=
  match o with
  | .times => return a * b
  | .over => if b = 0 then fail names "division by zero" else return a / b
  | .modulo => if b = 0 then fail names "division by zero" else return a % b
  | .plus => return a + b
  | .minus => return a - b
  | .shiftLeft => return a <<< b
  | .shiftRight => return a >>> b
  | .less => return truth (a < b)
  | .atMost => return truth (a ≤ b)
  | .greater => return truth (b < a)
  | .atLeast => return truth (b ≤ a)
  | .equal => return truth (a = b)
  | .unequal => return truth (a ≠ b)
  | .bitAnd => return a &&& b
  | .bitXor => return a ^^^ b
  | .bitOr => return a ||| b

mutual

/-- A single value, from its first token on. -/
def primary (idle : Bool) : (fuel : Nat) → Token → Eval Int64
  | 0, _ => fail names "expecting primary"
  | fuel + 1, t => do
      let next : Eval Token := do
        let t := (← get).ahead
        let ahead ← read
        modify fun e => { e with ahead }
        return t
      match t with
      | .leftParen =>
          let n ← assignment idle fuel (← get).ahead
          if (← get).ahead ≠ .rightParen then fail names "expecting ')'"
          let ahead ← read
          modify fun e => { e with ahead }
          return n
      | .number n => return n
      | .name x => if idle then return 0 else valueOf names x
      | .binary .plus => primary idle fuel (← next)
      | .binary .minus => return -(← primary idle fuel (← next))
      | .not => return truth ((← primary idle fuel (← next)) = 0)
      | .complement => return ~~~(← primary idle fuel (← next))
      | _ => fail names "expecting primary"

/-- What operators no looser than a bound make of a value. The operator is ahead. -/
def continued (idle : Bool) : (fuel : Nat) → Int64 → Binary → (bound : Nat) → Eval Int64
  | 0, _, _, _ => fail names "expecting primary"
  | fuel + 1, a, o, bound => do
      let b ← primary idle fuel (← operand)
      let b ← match (← get).ahead with
        | .binary tighter =>
            if tighter.looseness < o.looseness then continued idle fuel b tighter o.looseness else pure b
        | _ => pure b
      let a ← if idle then pure b else apply names o a b
      match (← get).ahead with
      | .binary o => if o.looseness ≥ bound then return a else continued idle fuel a o bound
      | _ => return a

/-- Values joined by operators that are neither logical nor choices. -/
def joined (idle : Bool) : (fuel : Nat) → Token → Eval Int64
  | 0, _ => fail names "expecting primary"
  | fuel + 1, t => do
      let a ← primary idle fuel t
      match (← get).ahead with
      | .binary o => continued idle fuel a o 8
      | _ => return a

def conjunction (idle : Bool) : (fuel : Nat) → Token → Eval Int64
  | 0, _ => fail names "expecting primary"
  | fuel + 1, t => do
      let a ← joined idle fuel t
      if (← get).ahead ≠ .and then return a
      let b ← conjunction (idle || a = 0) fuel (← operand)
      return truth (a ≠ 0 && b ≠ 0)

def disjunction (idle : Bool) : (fuel : Nat) → Token → Eval Int64
  | 0, _ => fail names "expecting primary"
  | fuel + 1, t => do
      let a ← conjunction idle fuel t
      if (← get).ahead ≠ .or then return a
      let b ← disjunction (idle || a ≠ 0) fuel (← operand)
      return truth (a ≠ 0 || b ≠ 0)

def choice (idle : Bool) : (fuel : Nat) → Token → Eval Int64
  | 0, _ => fail names "expecting primary"
  | fuel + 1, t => do
      let a ← disjunction idle fuel t
      if (← get).ahead ≠ .question then return a
      let t ← read
      modify fun e => { e with ahead := t }
      let yes ← assignment (idle || a = 0) fuel t
      if (← get).ahead ≠ .colon then fail names "expecting ':'"
      let no ← choice (idle || a ≠ 0) fuel (← operand)
      return if a ≠ 0 then yes else no

/-- A whole expression, from its first token on; the token is still ahead. -/
def assignment (idle : Bool) : (fuel : Nat) → Token → Eval Int64
  | 0, _ => fail names "expecting primary"
  | fuel + 1, t => do
      let ahead ← read
      modify fun e => { e with ahead }
      match t, ahead with
      | .name x, .assign change =>
          let first ← read
          modify fun e => { e with ahead := first }
          let n ← assignment idle fuel first
          if idle then return n
          let n ← match change with
            | none => pure n
            | some o => apply names o (← valueOf names x) n
          if names.locked x then throw (x ++ ": is read only".toList)
          modify fun e => { e with assigned := (x, n) :: e.assigned }
          return n
      | t, _ => choice idle fuel t

end

/-- The value of an expression, and what it assigns, the latest first. -/
def evaluate : Except Letters (Int64 × List (Letters × Int64)) := do
  let whole : Eval Int64 := do
    let t ← read
    modify fun e => { e with ahead := t }
    let n ← assignment names false (16 * names.whole.length + 16) t
    if (← get).ahead ≠ .finish then fail names "expecting EOF"
    return n
  let (n, e) ← whole.run { rest := names.whole }
  return (n, e.assigned)

end TwinRun.Script.Arithmetic
