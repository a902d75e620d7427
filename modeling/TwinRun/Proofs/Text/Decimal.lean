import TwinRun.Text.Decimal

/-!
Decimal numbers read back.

* `read?_digits`: reading the digits of a number gives the number.
* `digits_injective`: so different numbers have different digits.
* `isDigit_of_mem_digits`: the digits hold nothing but digit characters.
-/

namespace TwinRun.Decimal

/-! ### One digit -/

theorem isDigit_digit (d : Nat) : (digit d).isDigit = true := by
  have hall : ∀ k < 10, (Char.ofNat (48 + k)).isDigit = true := by decide
  exact hall (d % 10) (Nat.mod_lt d (by decide))

theorem digitValue?_digit (d : Nat) : digitValue? (digit d) = some (d % 10) := by
  have hall : ∀ k < 10, digitValue? (Char.ofNat (48 + k)) = some k := by decide
  exact hall (d % 10) (Nat.mod_lt d (by decide))

/-! ### All digits -/

def readDigit (value : Option Nat) (c : Char) : Option Nat := do
  let v ← value
  let d ← digitValue? c
  if d < 10 then some (v * 10 + d) else none

theorem readDigit_digit (v d : Nat) : readDigit (some v) (digit d) = some (v * 10 + d % 10) := by
  have hlt : d % 10 < 10 := Nat.mod_lt d (by decide)
  simp [readDigit, digitValue?_digit, hlt]

theorem digits_ne_nil (n : Nat) : digits n ≠ [] := by
  rw [digits]
  split <;> simp

/-- Reading on from zero over the digits of a number gives the number. -/
theorem foldl_readDigit_digits (n : Nat) : (digits n).foldl readDigit (some 0) = some n := by
  induction n using Nat.strongRecOn with
  | _ n ih =>
    rw [digits]
    by_cases hn : n < 10
    · rw [if_pos hn, List.foldl_cons, List.foldl_nil, readDigit_digit, Nat.zero_mul,
        Nat.zero_add, Nat.mod_eq_of_lt hn]
    · rw [if_neg hn, List.foldl_append, ih (n / 10) (by omega), List.foldl_cons,
        List.foldl_nil, readDigit_digit]
      congr 1
      omega

/-- Reading the digits of a number gives the number. -/
theorem read?_digits (n : Nat) : read? (digits n) = some n := by
  have hread : ∀ cs : List Char, cs ≠ [] → read? cs = cs.foldl readDigit (some 0) := by
    intro cs hcs
    cases cs with
    | nil => exact absurd rfl hcs
    | cons c cs => rfl
  rw [hread _ (digits_ne_nil n), foldl_readDigit_digits]

/-- Different numbers have different digits. -/
theorem digits_injective : Function.Injective digits := fun m n h => by
  have hread := read?_digits m
  rw [h, read?_digits] at hread
  exact (Option.some.inj hread).symm

/-- The digits of a number hold nothing but digit characters. -/
theorem isDigit_of_mem_digits {n : Nat} {c : Char} (h : c ∈ digits n) : c.isDigit = true := by
  induction n using Nat.strongRecOn with
  | _ n ih =>
    rw [digits] at h
    by_cases hn : n < 10
    · rw [if_pos hn, List.mem_singleton] at h
      exact h ▸ isDigit_digit n
    · rw [if_neg hn, List.mem_append, List.mem_singleton] at h
      rcases h with h | h
      · exact ih (n / 10) (by omega) h
      · exact h ▸ isDigit_digit n

end TwinRun.Decimal
