import TwinRun.Text.Decimal
import TwinRun.Yaml.Node

/-!
What a scalar means where any kind of value may stand.

A plain scalar is null, a truth value, an integer, a float or else a text, whichever its
spelling fits first. A scalar in quotes is a text. The tags of the core schema ask for one
kind and refuse other spellings.
-/

namespace TwinRun.Yaml

/-! ### Spellings -/

def isNull (text : String) : Bool := ["null", "Null", "NULL", "~"].contains text

def isTruth (text : String) : Bool :=
  ["true", "True", "TRUE", "false", "False", "FALSE"].contains text

def isSign (c : Char) : Bool := c == '+' || c == '-'

/-- Without one leading sign. -/
def unsigned (cs : List Char) : List Char :=
  match cs with
  | c :: rest => if isSign c then rest else cs
  | [] => cs

/-- Digits behind a leading zero spell no number. -/
def zeroPadded (cs : List Char) : Bool :=
  match unsigned cs with
  | '0' :: rest => !rest.isEmpty && rest.all Char.isDigit
  | _ => false

/-- The magnitude of an integer without sign, in one of four bases. -/
def magnitude? (cs : List Char) : Option Nat :=
  match cs with
  | '0' :: 'x' :: digits => Decimal.ofDigits? 16 digits
  | '0' :: 'o' :: digits => Decimal.ofDigits? 8 digits
  | '0' :: 'b' :: digits => Decimal.ofDigits? 2 digits
  | _ => if zeroPadded cs then none else Decimal.read? cs

/-- Reads an integer that is not negative; a plus sign may stand in front. -/
def natural? (cs : List Char) : Option Nat :=
  match cs with
  | '+' :: rest => magnitude? rest
  | _ => magnitude? cs

/-- Reads an integer with a minus sign, and gives its magnitude. -/
def negated? (cs : List Char) : Option Nat :=
  match cs with
  | '-' :: rest => magnitude? rest
  | _ => none

/-- The greatest finite float has this many decimal digits. -/
def maxFloatDigits : Nat := 309

/-- From here on a number is rounded to infinity. -/
def floatLimit : Nat := Nat.pow 2 1024 - Nat.pow 2 970

/-- Whether `mantissa * 10 ^ exponent` is rounded to a finite float. -/
def isFinite (mantissa : Nat) (exponent : Int) : Bool :=
  let places := (Decimal.digits mantissa).length + exponent
  mantissa == 0 || places < maxFloatDigits
    || (places ≤ maxFloatDigits &&
      if exponent < 0 then mantissa < floatLimit * Nat.pow 10 exponent.natAbs
      else mantissa * Nat.pow 10 exponent.natAbs < floatLimit)

/-- An exponent behind its `e`. -/
def exponent? (cs : List Char) : Option Int :=
  match cs with
  | '-' :: rest => (Decimal.read? rest).map (fun n => -(n : Int))
  | '+' :: rest => (Decimal.read? rest).map Int.ofNat
  | _ => (Decimal.read? cs).map Int.ofNat

/-- Whether a text without sign is a number in positional or exponent form that is not too
large for a float. -/
def isDecimalFloat (cs : List Char) : Bool :=
  let whole := cs.takeWhile Char.isDigit
  let rest := cs.drop whole.length
  let fraction := match rest with
    | '.' :: more => more.takeWhile Char.isDigit
    | _ => []
  let rest := match rest with
    | '.' :: more => more.drop fraction.length
    | _ => rest
  let exponent := match rest with
    | [] => some 0
    | e :: more => if e == 'e' || e == 'E' then exponent? more else none
  match Decimal.read? (whole ++ fraction), exponent with
  | some mantissa, some exponent => isFinite mantissa (exponent - fraction.length)
  | _, _ => false

def isFloat (text : String) : Bool :=
  [".inf", ".Inf", ".INF", "+.inf", "+.Inf", "+.INF", "-.inf", "-.Inf", "-.INF",
    ".nan", ".NaN", ".NAN"].contains text || isDecimalFloat (unsigned text.toList)

/-! ### Values -/

/-- A value, as far as a configuration tells values apart. -/
inductive Value where
  | text (s : String)
  /-- An integer that is not negative. -/
  | natural (n : Nat)
  | sequence (items : List Value)
  | mapping (entries : List (Value × Value))
  /-- Null, a truth value, a negative integer or a float. -/
  | other
  deriving Repr, Inhabited

/-- Natural numbers of 64 bits. -/
def maxNatural : Nat := Nat.pow 2 64

/-- The integer that a text spells, if it is one. Integers of more than 64 and up to 128
bits are refused; the inner result is absent for them. -/
def integer? (cs : List Char) : Option (Option Value) :=
  match natural? cs, negated? cs with
  | some n, _ =>
      if n < maxNatural then some (some (.natural n))
      else if n < Nat.pow 2 128 then some none
      else none
  | none, some n =>
      if n ≤ Nat.pow 2 63 then some (some .other)
      else if n ≤ Nat.pow 2 127 then some none
      else none
  | none, none => none

def plainValue? (text : String) : Option Value :=
  if text.isEmpty || isNull text || isTruth text then some .other
  else match integer? text.toList with
    | some value => value
    | none =>
        if !zeroPadded text.toList && isFloat text then some .other else some (.text text)

/-- The tags of the core schema start so. -/
def coreTag (name : String) : String := "tag:yaml.org,2002:" ++ name

def isLocalTag (tag : String) : Bool := tag.toList.head? == some '!'

/-- The value of a scalar, if its tag and its spelling go together. A local tag is refused. -/
def scalarValue? (text : String) (style : ScalarStyle) : (tag : Option String) → Option Value
  | none => if style = .plain then plainValue? text else some (.text text)
  | some tag =>
      if isLocalTag tag then none
      else if tag = coreTag "bool" then (if isTruth text then some .other else none)
      else if tag = coreTag "int" then (integer? text.toList).join
      else if tag = coreTag "float" then (if isFloat text then some .other else none)
      else if tag = coreTag "null" then (if isNull text then some .other else none)
      else some (.text text)

/-! ### Following aliases -/

/-- What is left of the number of aliases that may be followed. -/
abbrev Following := StateT Nat Option

/-- The node itself, or the one that an alias stands for. -/
def Node.follow (anchors : List (Nat × Node)) : Node → Following Node
  | .alias anchor => do
      match ← get with
      | 0 => failure
      | left + 1 =>
          set left
          (anchors.lookup anchor).elim failure pure
  | n => pure n

/-- The value of a node of at most this depth, aliases followed. -/
def Node.value (anchors : List (Nat × Node)) : (depth : Nat) → Node → Following Value
  | 0, n => do
      match ← n.follow anchors with
      | .scalar text style tag => (scalarValue? text style tag).elim failure pure
      | _ => failure
  | depth + 1, n => do
      match ← n.follow anchors with
      | .scalar text style tag => (scalarValue? text style tag).elim failure pure
      | .sequence items tag =>
          if tag.any isLocalTag then failure
          return .sequence (← items.mapM (value anchors depth))
      | .mapping entries tag =>
          if tag.any isLocalTag then failure
          return .mapping (← entries.mapM fun (k, v) => do
            return (← value anchors depth k, ← value anchors depth v))
      | .alias _ => failure

end TwinRun.Yaml
