import TwinRun.Text.Letters

/-!
Numbers with a binary point.

A number is read from decimal or hexadecimal text and kept with a limited number of binary
places, the nearest one, ties going to the even neighbour. It is shown in decimal exactly as
kept, rounded by the same rule.
-/

namespace TwinRun

/-- A number with a sign, or what takes the place of one. -/
inductive BinaryFraction where
  /-- So many times a power of two. -/
  | finite (negative : Bool) (mantissa : Nat) (exponent : Int)
  | infinite (negative : Bool)
  | undefined
  deriving DecidableEq, Repr

namespace BinaryFraction

structure Precision where
  /-- The number of binary places. -/
  places : Nat
  /-- The least power of two. -/
  least : Int
  /-- No number reaches this power of two. -/
  bound : Int
  deriving DecidableEq, Repr

def double : Precision := ⟨53, -1074, 1024⟩

/-- Numbers of 80 bits. -/
def extended : Precision := ⟨64, -16445, 16384⟩

/-- The quotient of two numbers, rounded to the nearest one, a tie to the even one. -/
def roundedQuotient (a b : Nat) : Nat :=
  let q := a / b
  let r := a % b
  if 2 * r > b ∨ (2 * r = b ∧ q % 2 = 1) then q + 1 else q

/-- `a / b * 2 ^ e` as numerator and denominator. -/
def scaled (a b : Nat) (e : Int) : Nat × Nat :=
  if e ≥ 0 then (a * Nat.pow 2 e.toNat, b) else (a, b * Nat.pow 2 (-e).toNat)

def ofQuotient (p : Precision) (negative : Bool) (a b : Nat) : BinaryFraction :=
  if a = 0 then .finite negative 0 0
  else
    let size : Int := (a.log2 : Int) - (b.log2 : Int)
    let e := max p.least (size - p.places)
    let (n, d) := scaled a b (-e)
    -- one place too many is possible: then the point moves by one
    let (n, d, e) := if n / d ≥ Nat.pow 2 p.places then (n, 2 * d, e + 1) else (n, d, e)
    let m := roundedQuotient n d
    if m > 0 ∧ (m.log2 : Int) + e ≥ p.bound then .infinite negative else .finite negative m e

/-! ### Arithmetic -/

/-- The nearest number to so many times a power of two. -/
def ofScaled (p : Precision) (n e : Int) : BinaryFraction :=
  let (a, b) := scaled n.natAbs 1 e
  ofQuotient p (n < 0) a b

/-- A finite number times a power of two, as a whole number. -/
def signedMantissa (negative : Bool) (m : Nat) : Int := if negative then -(m : Int) else m

def plus (p : Precision) : BinaryFraction → BinaryFraction → BinaryFraction
  | .finite s m e, .finite s' m' e' =>
      if m' = 0 then .finite s m e
      else
        let least := min e e'
        ofScaled p (signedMantissa s m * Int.pow 2 (e - least).toNat
          + signedMantissa s' m' * Int.pow 2 (e' - least).toNat) least
  | .finite .., x => x
  | x, .finite .. => x
  | .infinite s, .infinite s' => if s = s' then .infinite s else .undefined
  | _, _ => .undefined

def times (p : Precision) (n : Nat) : BinaryFraction → BinaryFraction
  | .finite s m e => ofScaled p (signedMantissa s m * n) e
  | x => x

def isZero : BinaryFraction → Bool
  | .finite _ 0 _ => true
  | _ => false

def less : BinaryFraction → BinaryFraction → Bool
  | .finite s m e, .finite s' m' e' =>
      let least := min e e'
      signedMantissa s m * Int.pow 2 (e - least).toNat
        < signedMantissa s' m' * Int.pow 2 (e' - least).toNat
  | .finite .., .infinite s | .infinite true, .infinite s => !s
  | .infinite s, .finite .. => s
  | _, _ => false

/-! ### Reading -/

/-- Reads digits in a base, with a point. What comes back: the number without the point, the
digits behind the point, the rest, and whether there was a digit. -/
def readDigits (base : Nat) (value : Char → Nat) (t : Letters) : Nat × Nat × Letters × Bool :=
  let isDigit (c : Char) : Bool := value c < base
  let number (n : Nat) (ds : Letters) : Nat := ds.foldl (fun n c => n * base + value c) n
  let whole := t.takeWhile isDigit
  match t.drop whole.length with
  | '.' :: rest =>
      let behind := rest.takeWhile isDigit
      if whole.isEmpty && behind.isEmpty then (0, 0, t, false)
      else (number (number 0 whole) behind, behind.length, rest.drop behind.length, true)
  | rest => (number 0 whole, 0, rest, !whole.isEmpty)

def digitValue (c : Char) : Nat :=
  if c.isDigit then c.toNat - '0'.toNat
  else if 'a' ≤ c ∧ c ≤ 'f' then c.toNat - 'a'.toNat + 10
  else if 'A' ≤ c ∧ c ≤ 'F' then c.toNat - 'A'.toNat + 10
  else 16

def maxPower : Nat := 20000

def readPower (lower upper : Char) (t : Letters) : Int × Letters :=
  match t with
  | c :: rest =>
      if c = lower ∨ c = upper then
        let (negative, ds) := match rest with
          | '-' :: ds => (true, ds)
          | '+' :: ds => (false, ds)
          | ds => (false, ds)
        let digits := ds.takeWhile Char.isDigit
        if digits.isEmpty then (0, t)
        else
          let n := min maxPower (digits.foldl (fun n c => n * 10 + (c.toNat - '0'.toNat)) 0)
          (if negative then -(n : Int) else n, ds.drop digits.length)
      else (0, t)
  | [] => (0, t)

/-- Takes a word from the start of a text, whatever its case. -/
def word? (w : String) (t : Letters) : Option Letters :=
  if (t.take w.length).map Char.toLower = w.toList then some (t.drop w.length) else none

/-- Reads the number at the start of a text, and what follows it. Without a number the whole
text is left. -/
def read (p : Precision) (t : Letters) : BinaryFraction × Letters :=
  let body := t.dropWhile Letters.isSpace
  let (negative, body) := match body with
    | '-' :: body => (true, body)
    | '+' :: body => (false, body)
    | body => (false, body)
  match word? "infinity" body, word? "inf" body, word? "nan" body with
  | some rest, _, _ => (.infinite negative, rest)
  | none, some rest, _ => (.infinite negative, rest)
  | none, none, some rest => (.undefined, rest)
  | none, none, none =>
      let hexadecimal? : Option (BinaryFraction × Letters) := do
        let digits ← word? "0x" body
        let (n, behind, rest, any) := readDigits 16 digitValue digits
        if !any then none
        let (power, rest) := readPower 'p' 'P' rest
        let (a, b) := scaled n 1 (power - 4 * behind)
        return (ofQuotient p negative a b, rest)
      match hexadecimal? with
      | some found => found
      | none =>
          let (n, behind, rest, any) := readDigits 10 (fun c => if c.isDigit then c.toNat - '0'.toNat else 10) body
          if !any then (.finite false 0 0, t)
          else
            let (power, rest) := readPower 'e' 'E' rest
            let power := power - behind
            let (a, b) := if power ≥ 0 then (n * Nat.pow 10 power.toNat, 1)
              else (n, Nat.pow 10 (-power).toNat)
            (ofQuotient p negative a b, rest)

/-! ### Showing -/

def isNegative : BinaryFraction → Bool
  | .finite negative _ _ | .infinite negative => negative
  | .undefined => false

/-- The digits of a number with a point in front of the last ones. -/
def withPoint (n behind : Nat) (alternate : Bool) : Letters :=
  let digits := Letters.ofNat n
  let digits := List.replicate (behind + 1 - digits.length) '0' ++ digits
  digits.take (digits.length - behind) ++
    (if behind > 0 ∨ alternate then ['.'] else []) ++ digits.drop (digits.length - behind)

/-- A quotient times a power of ten, rounded. -/
def roundedTimes (a b : Nat) (power : Int) : Nat :=
  if power ≥ 0 then roundedQuotient (a * Nat.pow 10 power.toNat) b
  else roundedQuotient a (b * Nat.pow 10 (-power).toNat)

/-- A quotient with so many digits behind the point. -/
def fixed (a b behind : Nat) (alternate : Bool) : Letters :=
  withPoint (roundedTimes a b behind) behind alternate

/-- The power of ten of the first digit of a quotient. -/
def decimalPower (a b : Nat) : Int :=
  if a = 0 then 0
  else
    let guess : Int := ((Nat.toDigits 10 a).length : Int) - (Nat.toDigits 10 b).length
    -- the quotient is between a tenth and ten times this power
    let reaches (power : Int) : Bool :=
      if power ≥ 0 then a ≥ b * Nat.pow 10 power.toNat else a * Nat.pow 10 (-power).toNat ≥ b
    if reaches guess then guess else guess - 1

/-- The digits of a quotient, one in front of the point, and the power of ten. -/
def scientificDigits (a b behind : Nat) : Nat × Int :=
  let power := decimalPower a b
  let n := roundedTimes a b (behind - power)
  if n ≥ Nat.pow 10 (behind + 1) then (n / 10, power + 1) else (n, power)

def powerText (upper : Bool) (power : Int) : Letters :=
  let digits := Letters.ofNat power.natAbs
  (if upper then 'E' else 'e') :: (if power < 0 then '-' else '+') ::
    List.replicate (2 - digits.length) '0' ++ digits

/-- Without zeros at the end behind the point. -/
def trimmed (t : Letters) : Letters :=
  if t.contains '.' then
    let t := (t.reverse.dropWhile (· == '0')).reverse
    if t.getLast? = some '.' then t.dropLast else t
  else t

/-- The ways to show a number. -/
inductive Style where
  | fixed
  | scientific
  /-- The shorter of the two. -/
  | general
  /-- Digits of four binary places each, the first of so many, and a power of two. -/
  | hexadecimal (first : Nat)
  deriving DecidableEq, Repr

def Precision.hexadecimal (p : Precision) : Style := .hexadecimal ((p.places - 1) % 4 + 1)

/-- A hexadecimal number with the power of two behind it. -/
def hexadecimalText (first : Nat) (alternate : Bool) (precision : Option Nat) (m : Nat) (e : Int) : Letters :=
  let shown (n behind : Nat) (power : Int) : Letters :=
    let digits := Nat.toDigits 16 n
    let digits := List.replicate (behind + 1 - digits.length) '0' ++ digits
    let fraction := digits.drop (digits.length - behind)
    let fraction := if precision.isSome then fraction else (fraction.reverse.dropWhile (· == '0')).reverse
    "0x".toList ++ digits.take (digits.length - behind) ++
      (if !fraction.isEmpty || alternate then ['.'] else []) ++ fraction ++
      ['p', if power < 0 then '-' else '+'] ++ Letters.ofNat power.natAbs
  if m = 0 then shown 0 (precision.getD 0) 0
  else
    let power := (m.log2 : Int) + e - (first - 1 : Nat)
    let behind := precision.getD ((m.log2 + 4) / 4)
    let (a, b) := scaled m 1 (e - power + 4 * behind)
    shown (roundedQuotient a b) behind power

def magnitude (style : Style) (upper alternate : Bool) (wanted : Option Nat) (x : BinaryFraction) : Letters :=
  let cased (t : String) : Letters := if upper then t.toList.map Char.toUpper else t.toList
  match x with
  | .infinite _ => cased "inf"
  | .undefined => cased "nan"
  | .finite _ m e =>
      let (a, b) := scaled m 1 e
      let precision := wanted.getD 6
      match style with
      | .fixed => fixed a b precision alternate
      | .scientific =>
          let (n, power) := scientificDigits a b precision
          withPoint n precision alternate ++ powerText upper power
      | .general =>
          let digits := max 1 precision
          let (n, power) := scientificDigits a b (digits - 1)
          let tidy (t : Letters) : Letters := if alternate then t else trimmed t
          if power < -4 ∨ power ≥ digits then
            tidy (withPoint n (digits - 1) alternate) ++ powerText upper power
          else tidy (fixed a b (digits - 1 - power).toNat alternate)
      | .hexadecimal first =>
          (hexadecimalText first alternate wanted m e).map fun c => if upper then c.toUpper else c

end BinaryFraction

end TwinRun
