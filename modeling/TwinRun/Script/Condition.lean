import TwinRun.Script.Print
import TwinRun.Tool.Condition

/-!
Conditions: the shell's own `test`.

A condition of three or four words is told apart by its form first; a longer one is read with
`-o` binding loosest, then `-a`, then `!`. What cannot be read to the end names the word at which
reading stopped.
-/

namespace TwinRun.Script

open Tool Tool.Condition

namespace Condition

/-! ### Words -/

inductive Comparison where
  | equal
  | unequal
  | before
  | after
  | numbers (holds : String)
  /-- Something about two files. -/
  | files (kind : String)
  deriving DecidableEq, Repr

inductive Role where
  | operand
  | unary (c : Char)
  | binary (c : Comparison)
  | not
  | and
  | or
  | opening
  | closing
  | finish
  deriving DecidableEq, Repr

/-- The words that may be more than operands. -/
def roleOf (t : Letters) : Role :=
  match t with
  | ['='] => .binary .equal
  | ['!', '='] => .binary .unequal
  | ['<'] => .binary .before
  | ['>'] => .binary .after
  | ['!'] => .not
  | ['('] => .opening
  | [')'] => .closing
  | ['-', 'a'] => .and
  | ['-', 'o'] => .or
  | ['-', c] => if "rwxefdcbpugkstznhOGLS".toList.contains c then .unary c else .operand
  | ['-', a, b] =>
      let name := String.ofList [a, b]
      if ["eq", "ne", "lt", "le", "gt", "ge"].contains name then .binary (.numbers name)
      else if ["nt", "ot", "ef"].contains name then .binary (.files name)
      else .operand
  | _ => .operand

def isUnary : Role → Bool
  | .unary _ => true
  | _ => false

def isBinary : Role → Bool
  | .binary _ => true
  | _ => false

/-- The role of the first of some words. A word that would need others after it is an operand,
if they are not there. -/
def role (ts : List Letters) : Role :=
  match ts with
  | [] => .finish
  | t :: rest =>
      let r := roleOf t
      let lonely := match rest with
        | [] => true
        | [_] => false
        | next :: _ => isBinary (roleOf next)
      if isUnary r && lonely then .operand
      else if r = .opening && rest.isEmpty then .operand
      else r

/-! ### Comparing -/

/-- The number that a word spells, with blanks around it. -/
def number (t : Letters) : Except Letters Int :=
  let (n, rest) := Letters.leadingInteger 10 t
  if rest.all Letters.isSpace && rest.length < t.length && Letters.leastSigned ≤ n && n ≤ Letters.greatestSigned
  then .ok n else .error ("Illegal number: ".toList ++ t)

/-- A condition on two words. No file is older than another. -/
def binary (c : Comparison) (a b : Letters) (r : Run) : Except Letters Bool :=
  match c with
  | .equal => .ok (a == b)
  | .unequal => .ok (a != b)
  | .before => .ok (!Letters.le b a)
  | .after => .ok (!Letters.le a b)
  | .numbers name => do return holds name (← number a) (← number b)
  | .files "ef" =>
      .ok (sameFile a b r)
  | .files _ => .ok false

/-! ### Reading -/

def complaint (t : Letters) (what : String) : Letters :=
  if t.isEmpty then what.toList else t ++ ": ".toList ++ what.toList

variable (r : Run)

mutual

/-- Alternatives. `here` starts with the word at hand, whose role is given; what comes back
starts with the last word used. -/
def alternatives : (fuel : Nat) → Role → List Letters → Except Letters (Bool × List Letters)
  | 0, _, here => .ok (false, here)
  | fuel + 1, role', here => do
      let (a, here) ← conjunction fuel role' here
      if role here.tail = .or then
        let next := here.drop 2
        let (b, here) ← alternatives fuel (role next) next
        return (a || b, here)
      return (a, here)

def conjunction : (fuel : Nat) → Role → List Letters → Except Letters (Bool × List Letters)
  | 0, _, here => .ok (false, here)
  | fuel + 1, role', here => do
      let (a, here) ← negation fuel role' here
      if role here.tail = .and then
        let next := here.drop 2
        let (b, here) ← conjunction fuel (role next) next
        return (a && b, here)
      return (a, here)

def negation : (fuel : Nat) → Role → List Letters → Except Letters (Bool × List Letters)
  | 0, _, here => .ok (false, here)
  | fuel + 1, role', here => do
      if role' ≠ .not then primary fuel role' here
      else
        let role' := role here.tail
        let (a, here) ← negation fuel role' (if role' = .finish then here else here.tail)
        return (!a, here)

def primary : (fuel : Nat) → Role → List Letters → Except Letters (Bool × List Letters)
  | 0, _, here => .ok (false, here)
  | fuel + 1, role', here =>
      match role', here with
      | .finish, _ => .ok (false, here)
      | .opening, _ => do
          let inner := here.tail
          if role inner = .closing then return (false, inner)
          let (a, here) ← alternatives fuel (role inner) inner
          let here := here.tail
          if role here ≠ .closing then throw "closing paren expected".toList
          return (a, here)
      | .unary c, operator :: operand =>
          match operand with
          | t :: _ => .ok (unary c t r, operand)
          | [] => .error (complaint operator "argument expected")
      | _, a :: rest =>
          match role rest, rest with
          | .binary c, operator :: operand =>
              match operand with
              | b :: _ => do return (← binary c a b r, operand)
              | [] => .error (complaint operator "argument expected")
          | _, _ => .ok (!a.isEmpty, here)
      | _, [] => .ok (false, [])

end

def whole (first : Role) (ts : List Letters) : Except Letters Bool := do
  let (v, here) ← alternatives r (8 * ts.length + 8) first ts
  match here with
  | t :: _ :: _ => throw (complaint t "unexpected operator")
  | _ => return v

/-- The value of a condition; without words it does not hold. However many negations stand in
front of a condition of three or four words, it is negated once for all of them. -/
def value (negated : Bool) : (fuel : Nat) → List Letters → Except Letters Bool
  | 0, _ | _, [] => .ok negated
  | fuel + 1, ts =>
      let special := ts.length = 3 ∨ ts.length = 4
      let plain (first : Role) : Except Letters Bool := (· != negated) <$> whole r first ts
      if ts.length = 3 ∧ isBinary (roleOf (ts.getD 1 [])) then plain .operand
      else if special ∧ ts.head? = some ['('] ∧ ts.getLast? = some [')'] then
        value negated fuel ts.tail.dropLast
      else if special ∧ ts.head? = some ['!'] then value true fuel ts.tail
      else plain (role ts)

end Condition

def test : Program := fun args => do
  match Condition.value (← get) false (args.length + 1) args with
  | .ok v => endWith (if v then 0 else 1)
  | .error problem => giveUp problem

def bracket : Program := fun args => do
  if args.getLast?.bind List.head? = some ']' then test args.dropLast else giveUp "missing ]".toList

end TwinRun.Script
