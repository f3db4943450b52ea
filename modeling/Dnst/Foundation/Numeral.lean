import Mathlib.Data.Nat.Digits.Lemmas

/-! # Numerals with the least significant digit first

`Nat.digits` writes zero without a digit. A numeral has at least one digit and zero is
the single digit zero, so that distinct numbers still have distinct numerals.
-/

namespace Dnst

def numeral (base number : Nat) : List Nat :=
  if number = 0 then [0] else base.digits number

theorem numeral_zero (base : Nat) : numeral base 0 = [0] := rfl

theorem numeral_of_ne {base number : Nat} (positive : number ≠ 0) :
    numeral base number = base.digits number := if_neg positive

theorem numeral_ne_nil (base number : Nat) : numeral base number ≠ [] := by
  by_cases zero : number = 0
  · rw [zero, numeral_zero]
    simp
  · rw [numeral_of_ne zero]
    exact Nat.digits_ne_nil_iff_ne_zero.mpr zero

theorem ofDigits_numeral (base number : Nat) :
    Nat.ofDigits base (numeral base number) = number := by
  by_cases zero : number = 0
  · rw [zero, numeral_zero]
    simp
  · rw [numeral_of_ne zero]
    exact Nat.ofDigits_digits base number

theorem digit_lt {base number digit : Nat} (large : 1 < base)
    (member : digit ∈ numeral base number) : digit < base := by
  by_cases zero : number = 0
  · rw [zero, numeral_zero, List.mem_singleton] at member
    omega
  · rw [numeral_of_ne zero] at member
    exact Nat.digits_lt_base large member

theorem length_numeral {base : Nat} (large : 1 < base) (number : Nat) :
    (numeral base number).length = base.log number + 1 := by
  by_cases zero : number = 0
  · rw [zero, numeral_zero, Nat.log_zero_right]
    rfl
  · rw [numeral_of_ne zero]
    exact Nat.length_digits base number large zero

/-- Numbers below a positive power of the base have at most that many digits. -/
theorem length_numeral_le {base number count : Nat} (large : 1 < base)
    (small : number < base ^ (count + 1)) : (numeral base number).length ≤ count + 1 := by
  by_cases zero : number = 0
  · rw [zero, numeral_zero]
    simp
  · rw [numeral_of_ne zero]
    exact (Nat.digits_length_le_iff large number).mpr small

end Dnst
