import TwinRun.Text.Decimal
import TwinRun.Text.Letters

/-!
Reading whole numbers from the start of a text.

Blanks and a sign may stand in front. A zero in front makes a number octal, a zero and an `x`
hexadecimal, where the base is left open.
-/

namespace TwinRun.Letters

/-- The digits of a number, in a base, at the start of a text. -/
def digitsIn (base : Nat) (t : Letters) : Letters :=
  t.takeWhile fun c => (Decimal.digitValue? c).any (· < base)

def valueIn (base : Nat) (ds : Letters) : Nat :=
  ds.foldl (fun n c => n * base + (Decimal.digitValue? c).getD 0) 0

/-- The number without sign at the start of a text, and what follows it; nothing without a
digit. In base 0 the text tells the base. -/
def leadingNatural? (base : Nat) (t : Letters) : Option (Nat × Letters) :=
  let inBase (base : Nat) (t : Letters) : Option (Nat × Letters) :=
    let ds := digitsIn base t
    if ds.isEmpty then none else some (valueIn base ds, t.drop ds.length)
  if base ≠ 0 then inBase base t
  else match t with
  | '0' :: x :: rest =>
      if x = 'x' ∨ x = 'X' then (inBase 16 rest).orElse fun _ => some (0, x :: rest)
      else inBase 8 t
  | t => inBase 10 t

/-- The number at the start of a text, and what follows it; the whole text, if there is none. -/
def leadingInteger (base : Nat) (t : Letters) : Int × Letters :=
  let body := t.dropWhile isSpace
  let (negative, body) := match body with
    | '-' :: body => (true, body)
    | '+' :: body => (false, body)
    | body => (false, body)
  match leadingNatural? base body with
  | some (n, rest) => (if negative then -(n : Int) else n, rest)
  | none => (0, t)

/-- The least and the greatest number of 64 bits, with and without sign. -/
def leastSigned : Int := -9223372036854775808

def greatestSigned : Int := 9223372036854775807

def greatestUnsigned : Int := 18446744073709551615

end TwinRun.Letters
