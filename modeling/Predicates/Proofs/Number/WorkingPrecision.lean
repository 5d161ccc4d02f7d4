/-
This file shows that rounding to the working precision keeps the order of numbers, and that it
leaves a number alone when a settled one has the same value.
-/

import Predicates.Proofs.Number.Rank
import Predicates.Proofs.Number.Signals

namespace Predicates

namespace Decimal

variable {coefficient otherCoefficient kept : Nat} {exponent otherExponent place : Int}
variable {negative : Bool}

/-- The last place that the working precision keeps of a number with many digits. -/
def lastPlace (coefficient : Nat) (exponent : Int) : Int :=
  max (adjustedExponent coefficient exponent - workingPlaces + 1) leastExponent

/-- The whole number of units of a place that is nearest to a notation. -/
def nearestAt (place : Int) (coefficient : Nat) (exponent : Int) : Nat :=
  roundHalfEven (coefficient * tenPower (exponent - place).toNat)
    (tenPower (place - exponent).toNat)

theorem nearestAt_mono
    (le : notationValue coefficient exponent ≤ notationValue otherCoefficient otherExponent) :
    nearestAt place coefficient exponent ≤ nearestAt place otherCoefficient otherExponent := by
  have counted (coefficient : Nat) (exponent : Int) :
      notationValue coefficient exponent / 10 ^ place =
        ((coefficient * tenPower (exponent - place).toNat : Nat) : ℚ) /
          (tenPower (place - exponent).toNat : Nat) := by
    rw [← Int.neg_sub exponent place, ← notationValue_eq_div, notationValue, notationValue,
      zpow_sub₀ (by norm_num), mul_div_assoc]
  have scaled := div_le_div_of_nonneg_right le (zpow_pos (by norm_num : (0 : ℚ) < 10) place).le
  rw [counted, counted, div_le_div_iff₀ (by exact_mod_cast tenPower_pos _)
    (by exact_mod_cast tenPower_pos _)] at scaled
  exact roundHalfEven_mono (tenPower_pos _) (tenPower_pos _) (by exact_mod_cast scaled)

/-- The value of the units that are nearest to a notation. -/
def valueAt (place : Int) (coefficient : Nat) (exponent : Int) : ℚ :=
  notationValue (nearestAt place coefficient exponent) place

theorem valueAt_mono
    (le : notationValue coefficient exponent ≤ notationValue otherCoefficient otherExponent) :
    valueAt place coefficient exponent ≤ valueAt place otherCoefficient otherExponent :=
  mul_le_mul_of_nonneg_right (Nat.cast_le.mpr (nearestAt_mono le))
    (zpow_pos (by norm_num) _).le

/-- A notation that ends at the place or before it is not rounded there. -/
theorem valueAt_of_le (whole : place ≤ exponent) :
    valueAt place coefficient exponent = notationValue coefficient exponent := by
  have unit : tenPower (place - exponent).toNat = 1 := by
    rw [Int.toNat_of_nonpos (Int.sub_nonpos_of_le whole), tenPower_eq, Nat.pow_zero]
  have nearest : nearestAt place coefficient exponent =
      coefficient * 10 ^ (exponent - place).toNat := by
    rw [nearestAt, unit, tenPower_eq]
    simpa only [Nat.mul_one] using
      roundHalfEven_mul (coefficient * 10 ^ (exponent - place).toNat) Nat.one_pos
  rw [valueAt, nearest, notationValue_mul_pow]
  congr 1
  omega

/-- The value that is left of a notation in the working precision. -/
def workingValue (coefficient : Nat) (exponent : Int) : ℚ :=
  notationValue
    (roundedCoefficient coefficient (roundedExponent coefficient exponent - exponent).toNat)
    (roundedExponent coefficient exponent)

theorem workingValue_eq (coefficient : Nat) (exponent : Int) :
    workingValue coefficient exponent =
      valueAt (lastPlace coefficient exponent) coefficient exponent := by
  have split : roundedExponent coefficient exponent =
      max exponent (lastPlace coefficient exponent) := max_assoc ..
  rw [workingValue, split, roundedCoefficient_eq]
  rcases le_total (lastPlace coefficient exponent) exponent with whole | rounds
  · rw [max_eq_left whole, Int.sub_self, Int.toNat_zero, ← roundedCoefficient_eq,
      roundedCoefficient_zero, valueAt_of_le whole]
  · rw [max_eq_right rounds, valueAt, nearestAt,
      Int.toNat_of_nonpos (Int.sub_nonpos_of_le rounds), tenPower_eq 0, Nat.pow_zero, Nat.mul_one]

theorem workingValue_nonneg (coefficient : Nat) (exponent : Int) :
    0 ≤ workingValue coefficient exponent :=
  notationValue_nonneg _ _

theorem workingValue_zero (exponent : Int) : workingValue 0 exponent = 0 := by
  have none := roundHalfEven_mul 0
    (tenPower_pos (roundedExponent 0 exponent - exponent).toNat)
  rw [Nat.zero_mul] at none
  rw [workingValue, roundedCoefficient_eq, none, notationValue_zero]

theorem adjustedExponent_one (exponent : Int) : adjustedExponent 1 exponent = exponent := by
  have single : decimalPlaces 1 = 1 := rfl
  rw [adjustedExponent, single]
  omega

/-- A number is at least the unit of its leading place. -/
theorem leading_le (nonzero : coefficient ≠ 0) (exponent : Int) :
    notationValue 1 (adjustedExponent coefficient exponent) ≤
      notationValue coefficient exponent := by
  have place : adjustedExponent coefficient exponent =
      (decimalPlaces coefficient : Int) + exponent - 1 := by
    rw [adjustedExponent, Int.add_comm exponent]
  rw [notationValue_one, place]
  exact le_notationValue nonzero exponent

theorem adjustedExponent_mono (nonzero : coefficient ≠ 0)
    (le : notationValue coefficient exponent ≤ notationValue otherCoefficient otherExponent) :
    adjustedExponent coefficient exponent ≤
      adjustedExponent otherCoefficient otherExponent := by
  by_contra higher
  exact absurd le (not_le.mpr (notationValue_lt_of_adjusted nonzero (Int.not_le.mp higher)))

theorem nonzero_of_le (nonzero : coefficient ≠ 0)
    (le : notationValue coefficient exponent ≤ notationValue otherCoefficient otherExponent) :
    otherCoefficient ≠ 0 := by
  rintro rfl
  rw [notationValue_zero] at le
  exact nonzero (coefficient_eq_zero le)

/-- A greater number does not become the smaller one in the working precision. -/
theorem workingValue_mono
    (le : notationValue coefficient exponent ≤ notationValue otherCoefficient otherExponent) :
    workingValue coefficient exponent ≤ workingValue otherCoefficient otherExponent := by
  by_cases zero : coefficient = 0
  · rw [zero, workingValue_zero]
    exact workingValue_nonneg _ _
  · have otherNonzero := nonzero_of_le zero le
    have places : lastPlace coefficient exponent ≤ lastPlace otherCoefficient otherExponent :=
      max_le_max_right _
        (Int.add_le_add_right (Int.sub_le_sub_right (adjustedExponent_mono zero le) _) _)
    rw [workingValue_eq, workingValue_eq]
    rcases places.eq_or_lt with same | apart
    · rw [same]
      exact valueAt_mono le
    · -- The unit of the greater number's leading place stands between, and no rounding crosses it.
      have above := leading_le otherNonzero otherExponent
      have lower : adjustedExponent coefficient exponent <
          adjustedExponent otherCoefficient otherExponent := by
        simp only [lastPlace] at apart
        omega
      have inner : lastPlace otherCoefficient otherExponent ≤
          adjustedExponent otherCoefficient otherExponent := by
        simp only [lastPlace, workingPlaces] at apart ⊢
        omega
      generalize adjustedExponent otherCoefficient otherExponent = lead at *
      have below : notationValue coefficient exponent < notationValue 1 lead :=
        notationValue_lt_of_adjusted Nat.one_ne_zero (by rwa [adjustedExponent_one])
      calc valueAt (lastPlace coefficient exponent) coefficient exponent
          ≤ valueAt (lastPlace coefficient exponent) 1 lead := valueAt_mono below.le
        _ = notationValue 1 lead := valueAt_of_le (apart.le.trans inner)
        _ = valueAt (lastPlace otherCoefficient otherExponent) 1 lead := (valueAt_of_le inner).symm
        _ ≤ valueAt (lastPlace otherCoefficient otherExponent) otherCoefficient otherExponent :=
            valueAt_mono above

theorem workingValue_of_settled (fits : decimalPlaces coefficient ≤ workingPlaces)
    (least : leastExponent ≤ exponent) :
    workingValue coefficient exponent = notationValue coefficient exponent := by
  rw [workingValue_eq]
  apply valueAt_of_le
  simp only [lastPlace, adjustedExponent]
  omega

/-- A place that is given back after a carry does not change the value. -/
theorem rank_normalized (carried : kept ≤ 10 ^ workingPlaces) :
    (normalized negative kept place).rank = (signedBy negative (notationValue kept place) : ℚ) := by
  unfold normalized
  split
  · rfl
  · rename_i excess
    have power : kept = 10 ^ workingPlaces := by
      have least := (decimalPlaces_le_iff (by decide : 0 < workingPlaces)).not.mp excess
      omega
    have shortened : notationValue (kept / 10) (place + 1) = notationValue kept place := by
      have whole : kept / 10 * 10 ^ 1 = kept := by
        rw [power]
        decide
      rw [← whole, notationValue_mul_pow, whole, Int.add_comm]
      rfl
    rw [rank, shortened]

/-- Rounding leaves the working value, with the sign it was given. -/
theorem rank_rounded {result : Decimal}
    (found : rounded negative coefficient exponent = .ok result) :
    result.rank = (signedBy negative (workingValue coefficient exponent) : ℚ) := by
  unfold rounded at found
  dsimp only at found
  split at found
  · cases found
  · cases found
    exact rank_normalized (roundedCoefficient_le coefficient exponent)

/-- The rank of a number that was rounded to the working precision. -/
def workingRank : Decimal → WithBotTop ℚ
  | .finite negative coefficient exponent =>
    (signedBy negative (workingValue coefficient exponent) : ℚ)
  | .infinity negative => infinityRank negative
  | _ => ⊥

theorem signedBy_workingValue_mono {otherNegative : Bool}
    (le : signedBy negative (notationValue coefficient exponent) ≤
      signedBy otherNegative (notationValue otherCoefficient otherExponent)) :
    signedBy negative (workingValue coefficient exponent) ≤
      signedBy otherNegative (workingValue otherCoefficient otherExponent) := by
  have nonneg := workingValue_nonneg coefficient exponent
  have otherNonneg := workingValue_nonneg otherCoefficient otherExponent
  match negative, otherNegative with
  | false, false => exact workingValue_mono le
  | true, true => exact neg_le_neg (workingValue_mono (neg_le_neg_iff.mp le))
  | true, false => exact (neg_nonpos.mpr nonneg).trans otherNonneg
  | false, true =>
      -- Only a zero is at most the opposite of another magnitude.
      change notationValue coefficient exponent ≤
        -notationValue otherCoefficient otherExponent at le
      have zero : coefficient = 0 :=
        coefficient_eq_zero (le.trans (neg_nonpos.mpr (notationValue_nonneg _ _)))
      have otherZero : otherCoefficient = 0 :=
        coefficient_eq_zero ((le_neg.mp le).trans (neg_nonpos.mpr (notationValue_nonneg _ _)))
      rw [zero, otherZero, workingValue_zero, workingValue_zero]
      exact neg_zero.ge

/-- Rounding keeps the order of decimals, though it can bring two of them together. -/
theorem workingRank_mono {left right : Decimal} (le : left.rank ≤ right.rank) :
    left.workingRank ≤ right.workingRank := by
  cases left with
  | finite leftNegative leftCoefficient leftExponent =>
      cases right with
      | finite rightNegative rightCoefficient rightExponent =>
          exact WithBotTop.coe_le_coe.mpr
            (signedBy_workingValue_mono (WithBotTop.coe_le_coe.mp le))
      | infinity negative =>
          cases negative with
          | false => exact le_top
          | true => exact absurd (le_bot_iff.mp le) (WithBotTop.coe_ne_bot _)
      | _ => exact absurd (le_bot_iff.mp le) (WithBotTop.coe_ne_bot _)
  | infinity negative =>
      cases negative with
      | true => exact bot_le
      | false =>
          cases right with
          | finite rightNegative rightCoefficient rightExponent =>
              exact absurd (top_le_iff.mp le) (WithBotTop.coe_ne_top _)
          | infinity negative => exact le
          | _ => exact le
  | _ => exact bot_le

theorem Settled.workingRank_eq {decimal : Decimal} (settled : decimal.Settled) :
    decimal.workingRank = decimal.rank := by
  cases decimal with
  | finite negative coefficient exponent =>
      rw [workingRank, rank]
      rcases settled with rfl | ⟨fits, least, -⟩
      · rw [workingValue_zero, notationValue_zero]
      · rw [workingValue_of_settled fits least]
  | _ => rfl

/-- A decimal fits the working precision when a settled one has the same value. -/
def Fits (decimal : Decimal) : Prop :=
  ∃ settled : Decimal, settled.Settled ∧ settled.order? decimal = some .eq

theorem Settled.fits {decimal : Decimal} (settled : decimal.Settled)
    (isNumber : decimal.isNaN = false) : decimal.Fits :=
  ⟨decimal, settled, order?_eq_some_eq.mpr ⟨⟨isNumber, isNumber⟩, rfl⟩⟩

/-- A decimal that fits is not rounded. -/
theorem Fits.workingRank_eq {decimal : Decimal} (fits : decimal.Fits) :
    decimal.workingRank = decimal.rank := by
  obtain ⟨settled, isSettled, level⟩ := fits
  have same := (order?_eq_some_eq.mp level).2
  calc decimal.workingRank
      = settled.workingRank :=
        le_antisymm (workingRank_mono same.ge) (workingRank_mono same.le)
    _ = settled.rank := isSettled.workingRank_eq
    _ = decimal.rank := same

theorem signedBy_inj {value other : ℚ} {otherNegative : Bool} (nonneg : 0 ≤ value)
    (otherNonneg : 0 ≤ other) (same : signedBy negative value = signedBy otherNegative other) :
    value = other := by
  have magnitude (negative : Bool) (value : ℚ) : |signedBy negative value| = |value| := by
    cases negative with
    | false => rfl
    | true => exact abs_neg value
  rw [← abs_of_nonneg nonneg, ← abs_of_nonneg otherNonneg, ← magnitude, same, magnitude]

/-- The magnitude of a decimal that fits is the magnitude of a settled one. -/
theorem Fits.exists_settled (fits : (finite negative coefficient exponent).Fits)
    (nonzero : coefficient ≠ 0) :
    ∃ settledCoefficient settledExponent,
      notationValue settledCoefficient settledExponent = notationValue coefficient exponent ∧
        adjustedExponent settledCoefficient settledExponent ≤ largestExponent := by
  obtain ⟨settled, isSettled, level⟩ := fits
  obtain ⟨⟨isNumber, -⟩, same⟩ := order?_eq_some_eq.mp level
  cases settled with
  | finite settledNegative settledCoefficient settledExponent =>
      have value := signedBy_inj (notationValue_nonneg _ _) (notationValue_nonneg _ _)
        (WithBotTop.coe_injective same)
      have settledNonzero := nonzero_of_le nonzero value.ge
      exact ⟨_, _, value, (isSettled.resolve_left settledNonzero).2.2⟩
  | infinity negative =>
      cases negative with
      | false => exact absurd same.symm (WithBotTop.coe_ne_top _)
      | true => exact absurd same.symm (WithBotTop.coe_ne_bot _)
  | quietNaN negative payload object => cases isNumber
  | signalingNaN negative payload object => cases isNumber

/-- A magnitude that fits is not past the largest exponent, also after it was rounded. -/
theorem Fits.in_range (fits : (finite negative coefficient exponent).Fits)
    (nonzero : coefficient ≠ 0) :
    adjustedExponent coefficient exponent ≤ largestExponent ∧
      adjustedExponent
        (roundedCoefficient coefficient (roundedExponent coefficient exponent - exponent).toNat)
        (roundedExponent coefficient exponent) ≤ largestExponent := by
  obtain ⟨settledCoefficient, settledExponent, value, inRange⟩ := fits.exists_settled nonzero
  have unchanged : workingValue coefficient exponent = notationValue coefficient exponent :=
    signedBy_inj (workingValue_nonneg _ _) (notationValue_nonneg _ _)
      (WithBotTop.coe_injective fits.workingRank_eq)
  have before := (adjustedExponent_mono nonzero value.ge).trans inRange
  have keptNonzero := nonzero_of_le nonzero unchanged.ge
  exact ⟨before, (adjustedExponent_mono keptNonzero unchanged.le).trans before⟩

/-- A decimal that fits can be negated. -/
theorem Fits.exists_negate {decimal : Decimal} (fits : decimal.Fits) :
    ∃ opposite, decimal.negate = .ok opposite := by
  cases decimal with
  | finite negative coefficient exponent =>
      by_cases zero : coefficient = 0
      · exact ⟨_, if_pos zero⟩
      · obtain ⟨before, after⟩ := fits.in_range zero
        have kept : rounded (!negative) coefficient exponent = .ok (normalized (!negative) _ _) :=
          if_neg (Int.not_lt.mpr after)
        rw [negate, if_neg zero, if_neg (Int.not_lt.mpr before), kept]
        exact ⟨_, rfl⟩
  | infinity negative => exact ⟨_, rfl⟩
  | quietNaN negative payload object => exact ⟨_, rfl⟩
  | signalingNaN negative payload object =>
      obtain ⟨settled, -, level⟩ := fits
      cases (order?_eq_some_eq.mp level).1.2

end Decimal

end Predicates
