/-
This file relates the decimal places of a number to the powers of ten around it.
-/

import Predicates.Text.DecimalDigit
import Mathlib.Algebra.Order.Ring.Nat
import Mathlib.Data.Nat.Digits.Defs

namespace Predicates

theorem tenPower_eq (exponent : Nat) : tenPower exponent = 10 ^ exponent :=
  rfl

theorem tenPower_pos (exponent : Nat) : 0 < tenPower exponent :=
  Nat.pow_pos (by decide)

variable {value places : Nat}

theorem decimalPlaces_pos (value : Nat) : 0 < decimalPlaces value :=
  Nat.length_toDigits_pos

/-- A number has at most so many places when it is below that power of ten. -/
theorem decimalPlaces_le_iff (positive : 0 < places) :
    decimalPlaces value ≤ places ↔ value < 10 ^ places :=
  Nat.length_toDigits_le_iff (by decide) positive

theorem lt_pow_decimalPlaces (value : Nat) : value < 10 ^ decimalPlaces value :=
  (decimalPlaces_le_iff (decimalPlaces_pos value)).mp (Nat.le_refl _)

/-- A power of ten has one place more than its exponent. -/
theorem lt_decimalPlaces_pow (positive : 0 < places) : places < decimalPlaces (10 ^ places) := by
  by_contra few
  exact Nat.lt_irrefl _ ((decimalPlaces_le_iff positive).mp (Nat.not_lt.mp few))

/-- The leading digit is not zero. -/
theorem pow_le_of_ne_zero (nonzero : value ≠ 0) : 10 ^ (decimalPlaces value - 1) ≤ value := by
  rcases Nat.eq_zero_or_pos (decimalPlaces value - 1) with single | several
  · rw [single]
    exact Nat.pos_of_ne_zero nonzero
  · by_contra below
    have fewer := (decimalPlaces_le_iff several).mpr (Nat.lt_of_not_le below)
    omega

/-- Without its last digit, a number has one place less. -/
theorem decimalPlaces_div_ten (several : 10 ≤ value) :
    decimalPlaces (value / 10) + 1 = decimalPlaces value := by
  unfold decimalPlaces
  rw [Nat.toDigits_of_base_le (by decide) several, List.length_append, List.length_singleton]

end Predicates
