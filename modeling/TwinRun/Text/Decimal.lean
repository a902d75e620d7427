/-!
Natural numbers in decimal, without sign and without leading zeros.
-/

namespace TwinRun.Decimal

def digit (d : Nat) : Char := Char.ofNat (48 + d % 10)

/-- The digits of a number, the most significant first. -/
def digits (n : Nat) : List Char :=
  if n < 10 then [digit n] else digits (n / 10) ++ [digit n]
termination_by n
decreasing_by omega

def text (n : Nat) : String := String.ofList (digits n)

/-- The value of a digit character in a base up to sixteen. -/
def digitValue? (c : Char) : Option Nat :=
  if '0' ≤ c ∧ c ≤ '9' then some (c.toNat - '0'.toNat)
  else if 'a' ≤ c ∧ c ≤ 'f' then some (c.toNat - 'a'.toNat + 10)
  else if 'A' ≤ c ∧ c ≤ 'F' then some (c.toNat - 'A'.toNat + 10)
  else none

/-- Reads a number in a base up to sixteen: at least one digit, and nothing but digits. -/
def ofDigits? (base : Nat) : List Char → Option Nat
  | [] => none
  | cs => cs.foldl (fun value c => do
      let v ← value
      let d ← digitValue? c
      if d < base then some (v * base + d) else none) (some 0)

def read? (cs : List Char) : Option Nat := ofDigits? 10 cs

end TwinRun.Decimal
