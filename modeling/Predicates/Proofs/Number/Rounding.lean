/-
This file shows that rounding keeps the order of quotients and leaves whole ones alone.
-/

import Predicates.Number.Rounding
import Mathlib.Tactic.Linarith

namespace Predicates

variable {numerator denominator otherNumerator otherDenominator : Nat}

/-- The rounded quotient is at most one half too large, and then it is even. -/
theorem roundHalfEven_upper (numerator : Nat) (positive : 0 < denominator) :
    2 * (denominator * roundHalfEven numerator denominator) ≤ 2 * numerator + denominator ∧
      (2 * (denominator * roundHalfEven numerator denominator) = 2 * numerator + denominator →
        roundHalfEven numerator denominator % 2 = 0) := by
  have division := Nat.div_add_mod numerator denominator
  have remainder := Nat.mod_lt numerator positive
  unfold roundHalfEven
  dsimp only
  split
  · constructor <;> omega
  · rename_i notBelow
    simp only [Bool.or_eq_true, Bool.and_eq_true, decide_eq_true_eq, not_or, not_and] at notBelow
    rw [Nat.mul_succ]
    constructor <;> omega

/-- The rounded quotient is at most one half too small, and then it is even. -/
theorem roundHalfEven_lower (numerator : Nat) (positive : 0 < denominator) :
    2 * numerator ≤ 2 * (denominator * roundHalfEven numerator denominator) + denominator ∧
      (2 * numerator = 2 * (denominator * roundHalfEven numerator denominator) + denominator →
        roundHalfEven numerator denominator % 2 = 0) := by
  have division := Nat.div_add_mod numerator denominator
  have remainder := Nat.mod_lt numerator positive
  unfold roundHalfEven
  dsimp only
  split
  · rename_i below
    simp only [Bool.or_eq_true, Bool.and_eq_true, decide_eq_true_eq] at below
    constructor <;> omega
  · rw [Nat.mul_succ]
    constructor <;> omega

/-- A greater quotient is not rounded to a smaller number. -/
theorem roundHalfEven_mono (positive : 0 < denominator) (otherPositive : 0 < otherDenominator)
    (le : numerator * otherDenominator ≤ otherNumerator * denominator) :
    roundHalfEven numerator denominator ≤ roundHalfEven otherNumerator otherDenominator := by
  obtain ⟨upper, upperEven⟩ := roundHalfEven_upper numerator positive
  obtain ⟨lower, lowerEven⟩ := roundHalfEven_lower otherNumerator otherPositive
  generalize roundHalfEven numerator denominator = first at *
  generalize roundHalfEven otherNumerator otherDenominator = second at *
  by_contra above
  obtain ⟨extra, rfl⟩ := Nat.exists_eq_add_of_lt (Nat.lt_of_not_le above)
  -- Both bounds are brought to the product of the denominators.
  have scaledUpper := Nat.mul_le_mul_right otherDenominator upper
  have scaledLower := Nat.mul_le_mul_right denominator lower
  have product : 0 < denominator * otherDenominator := Nat.mul_pos positive otherPositive
  have sizes : denominator * otherDenominator * extra = 0 := by nlinarith
  have next : extra = 0 := by
    rcases Nat.mul_eq_zero.mp sizes with zero | zero
    · omega
    · exact zero
  subst next
  have firstTie : 2 * (denominator * (second + 0 + 1)) = 2 * numerator + denominator := by
    apply Nat.eq_of_mul_eq_mul_right otherPositive
    nlinarith
  have secondTie : 2 * otherNumerator = 2 * (otherDenominator * second) + otherDenominator := by
    apply Nat.eq_of_mul_eq_mul_right positive
    nlinarith
  have firstEven := upperEven firstTie
  have secondEven := lowerEven secondTie
  omega

/-- A whole quotient is not rounded. -/
theorem roundHalfEven_mul (whole : Nat) (positive : 0 < denominator) :
    roundHalfEven (whole * denominator) denominator = whole := by
  unfold roundHalfEven
  simp [Nat.mul_div_cancel whole positive, positive]

end Predicates
