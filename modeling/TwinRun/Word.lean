/-!
Machine words of 64 bits.

What becomes of a sum or a product that is no word is settled when a program is built: its low bits
are taken, or the program panics.
-/

namespace TwinRun

/-- What becomes of a number that is no word. -/
inductive Overflow where
  /-- Its low bits are taken. -/
  | wraps
  | panics
  deriving DecidableEq, Repr

/-- What a program panics over. -/
inductive Panic where
  | sum
  | product
  deriving DecidableEq, Repr

def Panic.message : Panic → String
  | sum => "attempt to add with overflow"
  | product => "attempt to multiply with overflow"

namespace Word

/-- The least number that is no word, 2 to the power of 64. -/
def bound : Nat := 18446744073709551616

/-- Makes a word of a number. -/
def settle (overflow : Overflow) (panic : Panic) (n : Nat) : Except Panic Nat :=
  if n < bound then .ok n
  else
    match overflow with
    | .wraps => .ok (n % bound)
    | .panics => .error panic

def add (overflow : Overflow) (a b : Nat) : Except Panic Nat := settle overflow .sum (a + b)

def mul (overflow : Overflow) (a b : Nat) : Except Panic Nat := settle overflow .product (a * b)

end Word

end TwinRun
