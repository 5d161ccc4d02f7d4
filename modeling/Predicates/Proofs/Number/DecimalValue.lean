/-
This file shows that decimal numbers are ordered by their values.
-/

import Predicates.Number.DecimalOrder
import Predicates.Proofs.Number.DecimalNotation
import Mathlib.Order.Compare
import Mathlib.Order.WithBot

namespace Predicates

/-- A magnitude and a sign make up a value. -/
def signedBy {Magnitude : Type} [Neg Magnitude] (negative : Bool) (magnitude : Magnitude) :
    Magnitude :=
  if negative then -magnitude else magnitude

namespace Decimal

variable {leftNegative rightNegative : Bool} {leftCoefficient rightCoefficient : Nat}
variable {leftExponent rightExponent : Int}

/-- The number with the lower leading place is the lesser one. -/
theorem notationValue_lt_of_adjusted (rightNonzero : rightCoefficient ≠ 0)
    (lower : adjustedExponent leftCoefficient leftExponent <
      adjustedExponent rightCoefficient rightExponent) :
    notationValue leftCoefficient leftExponent < notationValue rightCoefficient rightExponent := by
  have below := notationValue_lt leftCoefficient leftExponent
  have least := le_notationValue rightNonzero rightExponent
  have power : (10 : ℚ) ^ ((decimalPlaces leftCoefficient : Int) + leftExponent) ≤
      10 ^ ((decimalPlaces rightCoefficient : Int) + rightExponent - 1) := by
    apply zpow_le_zpow_right₀ (by norm_num)
    unfold adjustedExponent at lower
    omega
  exact below.trans_le (power.trans least)

/-- Both coefficients are brought to the lesser exponent. -/
theorem notationValue_aligned (coefficient : Nat) (exponent other : Int) :
    notationValue coefficient exponent =
      ((coefficient * tenPower (exponent - other).toNat : Nat) : ℚ) * 10 ^ min exponent other := by
  rw [notationValue, tenPower_eq, Nat.cast_mul, Nat.cast_pow, Nat.cast_ofNat, mul_assoc,
    ← zpow_natCast, ← zpow_add₀ (by norm_num)]
  congr 2
  omega

theorem magnitudeOrder_eq :
    magnitudeOrder leftCoefficient leftExponent rightCoefficient rightExponent =
      cmp (notationValue leftCoefficient leftExponent)
        (notationValue rightCoefficient rightExponent) := by
  rw [magnitudeOrder]
  by_cases someZero : (leftCoefficient = 0 || rightCoefficient = 0) = true
  · rw [if_pos someZero]
    have zero : leftCoefficient = 0 ∨ rightCoefficient = 0 := by simpa using someZero
    by_cases leftZero : leftCoefficient = 0
    · by_cases rightZero : rightCoefficient = 0
      · rw [leftZero, rightZero, notationValue_zero, notationValue_zero, cmp_self_eq_eq]
        rfl
      · have positive : 0 < rightCoefficient := Nat.pos_of_ne_zero rightZero
        rw [leftZero, notationValue_zero, compare_lt_iff_lt.mpr positive,
          (notationValue_pos rightZero _).cmp_eq_lt]
    · have rightZero := zero.resolve_left leftZero
      have positive : 0 < leftCoefficient := Nat.pos_of_ne_zero leftZero
      rw [rightZero, notationValue_zero, compare_gt_iff_gt.mpr positive,
        (notationValue_pos leftZero _).cmp_eq_gt]
  · rw [if_neg someZero]
    have nonzero : ¬leftCoefficient = 0 ∧ ¬rightCoefficient = 0 := by simpa using someZero
    rcases lt_trichotomy (adjustedExponent leftCoefficient leftExponent)
        (adjustedExponent rightCoefficient rightExponent) with lower | same | higher
    · rw [compare_lt_iff_lt.mpr lower, (notationValue_lt_of_adjusted nonzero.2 lower).cmp_eq_lt]
      rfl
    · rw [compare_eq_iff_eq.mpr same, notationValue_aligned leftCoefficient _ rightExponent,
        notationValue_aligned rightCoefficient _ leftExponent, min_comm rightExponent]
      have scale : StrictMono fun whole : Nat => (whole : ℚ) * 10 ^ min leftExponent rightExponent :=
        fun less more below => mul_lt_mul_of_pos_right (Nat.cast_lt.mpr below)
          (zpow_pos (by norm_num) _)
      rw [Ordering.eq_then, ← cmp_eq_compare]
      exact (scale.cmp_map_eq _ _).symm
    · rw [compare_gt_iff_gt.mpr higher, (notationValue_lt_of_adjusted nonzero.1 higher).cmp_eq_gt]
      rfl

/-- The sign of zero does not matter. -/
theorem signedBy_of_signum_eq
    (same : signum leftNegative leftCoefficient = signum rightNegative rightCoefficient) :
    signedBy rightNegative (notationValue rightCoefficient rightExponent) =
      signedBy leftNegative (notationValue rightCoefficient rightExponent) := by
  by_cases zero : rightCoefficient = 0
  · rw [zero, notationValue_zero]
    simp [signedBy]
  · unfold signum at same
    rw [if_neg zero] at same
    cases leftNegative <;> cases rightNegative <;> split at same <;> simp_all

theorem signum_cases (negative : Bool) (coefficient : Nat) (exponent : Int) :
    signum negative coefficient = -1 ∧ signedBy negative (notationValue coefficient exponent) < 0 ∨
      signum negative coefficient = 0 ∧ signedBy negative (notationValue coefficient exponent) = 0 ∨
      signum negative coefficient = 1 ∧
        0 < signedBy negative (notationValue coefficient exponent) := by
  by_cases zero : coefficient = 0
  · right
    left
    rw [zero, notationValue_zero]
    simp [signum, signedBy]
  · have positive := notationValue_pos zero exponent
    cases negative with
    | false =>
        right
        right
        exact ⟨by simp [signum, zero], positive⟩
    | true =>
        left
        exact ⟨by simp [signum, zero], neg_neg_of_pos positive⟩

theorem signedBy_lt_of_signum_lt
    (less : signum leftNegative leftCoefficient < signum rightNegative rightCoefficient) :
    signedBy leftNegative (notationValue leftCoefficient leftExponent) <
      signedBy rightNegative (notationValue rightCoefficient rightExponent) := by
  have left := signum_cases leftNegative leftCoefficient leftExponent
  have right := signum_cases rightNegative rightCoefficient rightExponent
  rcases left with ⟨leftSign, left⟩ | ⟨leftSign, left⟩ | ⟨leftSign, left⟩ <;>
    rcases right with ⟨rightSign, right⟩ | ⟨rightSign, right⟩ | ⟨rightSign, right⟩ <;>
    first
    | exact absurd less (by omega)
    | linarith

/-- Finite numbers are ordered by their values. -/
theorem finiteOrder_eq :
    finiteOrder leftNegative leftCoefficient leftExponent
        rightNegative rightCoefficient rightExponent =
      cmp (signedBy leftNegative (notationValue leftCoefficient leftExponent))
        (signedBy rightNegative (notationValue rightCoefficient rightExponent)) := by
  rw [finiteOrder]
  rcases lt_trichotomy (signum leftNegative leftCoefficient)
      (signum rightNegative rightCoefficient) with less | same | greater
  · rw [compare_lt_iff_lt.mpr less, (signedBy_lt_of_signum_lt less).cmp_eq_lt]
    rfl
  · rw [compare_eq_iff_eq.mpr same, signedBy_of_signum_eq same, Ordering.eq_then]
    cases leftNegative with
    | false => exact magnitudeOrder_eq
    | true =>
        have reversed : StrictAnti fun value : ℚ => -value :=
          fun less more below => neg_lt_neg below
        rw [if_pos rfl, magnitudeOrder_eq]
        exact (reversed.cmp_map_eq _ _).symm
  · rw [compare_gt_iff_gt.mpr greater, (signedBy_lt_of_signum_lt greater).cmp_eq_gt]
    rfl

end Decimal

end Predicates
