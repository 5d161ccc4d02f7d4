/-
This file gives every number a rank on the binary grid and one among the decimals, and shows that
each comparison follows one of the two.
-/

import Predicates.Number
import Predicates.Proofs.Number.DecimalValue
import Mathlib.Algebra.Order.Group.Defs
import Mathlib.Data.Int.ConditionallyCompleteOrder
import Mathlib.Order.WithBotTop

namespace Predicates

section Signs

variable {Index Magnitude : Type} [LinearOrder Index] [AddCommGroup Magnitude]
variable [LinearOrder Magnitude] [IsOrderedAddMonoid Magnitude]
variable {measure : Index → Magnitude} {least left right : Index}

/-- Magnitudes of opposite signs are apart unless both are zero. -/
theorem neg_measure_lt (lowest : ∀ index, least ≤ index) (mono : StrictMono measure)
    (zero : measure least = 0) (nonzero : ¬(left = least ∧ right = least)) :
    -measure right < measure left := by
  have nonneg (index : Index) : 0 ≤ measure index := zero ▸ mono.monotone (lowest index)
  rcases (lowest left).eq_or_lt with same | above
  · have rightAbove : least < right :=
      lt_of_le_of_ne (lowest right) fun rightSame => nonzero ⟨same.symm, rightSame.symm⟩
    have positive : 0 < measure right := zero ▸ mono rightAbove
    exact (neg_neg_of_pos positive).trans_le (nonneg left)
  · have positive : 0 < measure left := zero ▸ mono above
    exact (neg_nonpos.mpr (nonneg right)).trans_lt positive

omit [LinearOrder Index] [LinearOrder Magnitude] [IsOrderedAddMonoid Magnitude] in
theorem signedBy_least (zero : measure least = 0) (negative : Bool) :
    signedBy negative (measure least) = 0 := by
  cases negative <;> simp [signedBy, zero]

/-- Signed magnitudes stand in one order, however the magnitudes are measured. -/
theorem cmp_signedBy (lowest : ∀ index, least ≤ index) (mono : StrictMono measure)
    (zero : measure least = 0) (leftNegative rightNegative : Bool) (left right : Index) :
    cmp (signedBy leftNegative (measure left)) (signedBy rightNegative (measure right)) =
      match leftNegative, rightNegative with
      | false, false => cmp left right
      | false, true => if left = least ∧ right = least then .eq else .gt
      | true, false => if right = least ∧ left = least then .eq else .lt
      | true, true => cmp right left := by
  match leftNegative, rightNegative with
  | false, false => exact mono.cmp_map_eq left right
  | false, true =>
      by_cases zeros : left = least ∧ right = least
      · rw [if_pos zeros, zeros.1, zeros.2, signedBy_least zero, signedBy_least zero]
        exact cmp_self_eq_eq 0
      · dsimp only
        rw [if_neg zeros]
        exact (neg_measure_lt lowest mono zero zeros).cmp_eq_gt
  | true, false =>
      by_cases zeros : right = least ∧ left = least
      · rw [if_pos zeros, zeros.1, zeros.2, signedBy_least zero, signedBy_least zero]
        exact cmp_self_eq_eq 0
      · dsimp only
        rw [if_neg zeros]
        exact (neg_measure_lt lowest mono zero zeros).cmp_eq_lt
  | true, true =>
      have reversed : StrictAnti fun index => -measure index :=
        fun less more below => neg_lt_neg (mono below)
      exact reversed.cmp_map_eq left right

end Signs

/-- The line of values ends in an infinity on either side. -/
def infinityRank {Place : Type} (negative : Bool) : WithBotTop Place :=
  if negative then ⊥ else ⊤

namespace Decimal

/-- A finite decimal stands at its value. -/
def rank : Decimal → WithBotTop ℚ
  | .finite negative coefficient exponent =>
    (signedBy negative (notationValue coefficient exponent) : ℚ)
  | .infinity negative => infinityRank negative
  | _ => ⊥

theorem order?_eq {left right : Decimal} (leftNumber : left.isNaN = false)
    (rightNumber : right.isNaN = false) : left.order? right = some (cmp left.rank right.rank) := by
  cases left with
  | finite leftNegative leftCoefficient leftExponent =>
      cases right with
      | finite rightNegative rightCoefficient rightExponent =>
          rw [order?, finiteOrder_eq, rank, rank, WithBotTop.coe_strictMono.cmp_map_eq]
      | infinity negative => cases negative <;> rfl
      | quietNaN negative payload object => cases rightNumber
      | signalingNaN negative payload object => cases rightNumber
  | infinity leftNegative =>
      cases right with
      | finite rightNegative rightCoefficient rightExponent => cases leftNegative <;> rfl
      | infinity negative => cases leftNegative <;> cases negative <;> rfl
      | quietNaN negative payload object => cases rightNumber
      | signalingNaN negative payload object => cases rightNumber
  | quietNaN negative payload object => cases leftNumber
  | signalingNaN negative payload object => cases leftNumber

theorem order?_eq_none {left right : Decimal}
    (undefined : left.isNaN = true ∨ right.isNaN = true) : left.order? right = none := by
  rcases undefined with leftNaN | rightNaN
  · cases left with
    | quietNaN negative payload object => rfl
    | signalingNaN negative payload object => rfl
    | _ => cases leftNaN
  · cases right with
    | quietNaN negative payload object => cases left <;> rfl
    | signalingNaN negative payload object => cases left <;> rfl
    | _ => cases rightNaN

/-- The other way round, the order of decimals is swapped. -/
theorem order?_swap (left right : Decimal) :
    right.order? left = (left.order? right).map Ordering.swap := by
  by_cases undefined : left.isNaN = true ∨ right.isNaN = true
  · rw [order?_eq_none undefined, order?_eq_none undefined.symm, Option.map_none]
  · rw [not_or, Bool.not_eq_true, Bool.not_eq_true] at undefined
    rw [order?_eq undefined.1 undefined.2, order?_eq undefined.2 undefined.1, Option.map_some,
      cmp_swap]

/-- Decimals are equal when they are numbers of one rank. -/
theorem order?_eq_some_eq {left right : Decimal} :
    left.order? right = some .eq ↔
      (left.isNaN = false ∧ right.isNaN = false) ∧ left.rank = right.rank := by
  by_cases undefined : left.isNaN = true ∨ right.isNaN = true
  · rw [order?_eq_none undefined]
    simp only [reduceCtorEq, false_iff, not_and]
    rintro ⟨leftNumber, rightNumber⟩
    simp [leftNumber, rightNumber] at undefined
  · rw [not_or, Bool.not_eq_true, Bool.not_eq_true] at undefined
    rw [order?_eq undefined.1 undefined.2, Option.some_inj, cmp_eq_eq_iff]
    exact (and_iff_right undefined).symm

end Decimal

namespace Number

/-- The places on the binary grid stand in a line too. -/
def GridPlace.rank : GridPlace → WithBotTop ℤ
  | .lowest => infinityRank true
  | .inside units => units
  | .highest => infinityRank false

theorem GridPlace.order_eq (left right : GridPlace) :
    left.order right = cmp left.rank right.rank := by
  cases left <;> cases right
  case inside.inside left right =>
    rw [GridPlace.order, ← cmp_eq_compare, rank, rank, WithBotTop.coe_strictMono.cmp_map_eq]
  all_goals rfl

/-- The rank of a number on the binary grid. -/
def gridRank (number : Number) : WithBotTop ℤ :=
  (number.gridPlace?.map GridPlace.rank).getD ⊥

/-- The rank of a number that is brought to a decimal. -/
def decimalRank (number : Number) : WithBotTop ℚ :=
  number.toDecimal.rank

variable {left right : Number}

theorem isNaN_toDecimal (number : Number) : number.toDecimal.isNaN = number.isNaN := by
  cases number with
  | integer value => rfl
  | binary value => cases value <;> rfl
  | decimal value => rfl

theorem exists_gridPlace {number : Number} (notDecimal : number.isDecimal = false)
    (isNumber : number.isNaN = false) : ∃ place, number.gridPlace? = some place := by
  cases number with
  | integer value => exact ⟨_, rfl⟩
  | binary value =>
      cases value with
      | nan => cases isNumber
      | _ => exact ⟨_, rfl⟩
  | decimal value => cases notDecimal

/-- Comparisons with a decimal follow the ranks of decimals. -/
theorem order?_of_decimal (someDecimal : left.isDecimal = true ∨ right.isDecimal = true)
    (leftNumber : left.isNaN = false) (rightNumber : right.isNaN = false) :
    left.order? right = some (cmp left.decimalRank right.decimalRank) := by
  rw [order?, if_pos (Bool.or_eq_true_iff.mpr someDecimal)]
  exact Decimal.order?_eq (left.isNaN_toDecimal.trans leftNumber)
    (right.isNaN_toDecimal.trans rightNumber)

/-- Comparisons without a decimal follow the ranks on the grid. -/
theorem order?_of_grid (leftBinary : left.isDecimal = false) (rightBinary : right.isDecimal = false)
    (leftNumber : left.isNaN = false) (rightNumber : right.isNaN = false) :
    left.order? right = some (cmp left.gridRank right.gridRank) := by
  obtain ⟨leftPlace, leftFound⟩ := exists_gridPlace leftBinary leftNumber
  obtain ⟨rightPlace, rightFound⟩ := exists_gridPlace rightBinary rightNumber
  have noDecimal : ¬(left.isDecimal || right.isDecimal) = true := by
    rw [leftBinary, rightBinary]
    decide
  rw [order?, if_neg noDecimal, gridRank, gridRank, leftFound, rightFound]
  exact congrArg some (GridPlace.order_eq leftPlace rightPlace)

theorem decimalRank_integer (value : Int) : (integer value).decimalRank = (value : ℚ) := by
  have same : signedBy (value < 0) (notationValue value.natAbs 0) = value := by
    rw [notationValue, zpow_zero, mul_one, Nat.cast_natAbs]
    rcases lt_or_ge value 0 with negative | nonneg
    · simp [signedBy, negative, abs_of_neg negative]
    · simp [signedBy, Int.not_lt.mpr nonneg, abs_of_nonneg nonneg]
  exact congrArg WithBotTop.coe same

/-- Two integers have the same order on the grid as among the decimals. -/
theorem cmp_integers (left right : Int) :
    cmp (integer left).gridRank (integer right).gridRank =
      cmp (integer left).decimalRank (integer right).decimalRank := by
  have onGrid : StrictMono fun value : Int => (integer value).gridRank :=
    WithBotTop.coe_strictMono.comp fun less more below =>
      mul_lt_mul_of_pos_right below (Int.natCast_pos.mpr Binary64.unitsPerOne_pos)
  have amongDecimals : StrictMono fun value : Int => (integer value).decimalRank := by
    intro less more below
    simp only [decimalRank_integer, WithBotTop.coe_lt_coe]
    exact Int.cast_lt.mpr below
  rw [onGrid.cmp_map_eq left right, amongDecimals.cmp_map_eq left right]

theorem cmp_finite (leftNegative rightNegative : Bool)
    (left right : Fin Binary64.magnitudeCount) :
    cmp (binary (.finite leftNegative left)).gridRank
        (binary (.finite rightNegative right)).gridRank =
      cmp (binary (.finite leftNegative left)).decimalRank
        (binary (.finite rightNegative right)).decimalRank := by
  have inRange : 0 < Binary64.magnitudeCount := by decide
  have lowest (magnitude : Fin Binary64.magnitudeCount) : ⟨0, inRange⟩ ≤ magnitude :=
    Nat.zero_le magnitude.val
  have unitsMono : StrictMono fun magnitude : Fin Binary64.magnitudeCount =>
      (Binary64.units magnitude.val : ℤ) :=
    fun less more below => Int.ofNat_lt.mpr (Binary64.units_strictMono below)
  have unitsZero : (Binary64.units 0 : ℤ) = 0 := rfl
  have onGrid := cmp_signedBy lowest unitsMono unitsZero leftNegative rightNegative left right
  have amongDecimals := cmp_signedBy lowest Binary64.shortestValue_strictMono
    (Binary64.shortestValue_zero inRange) leftNegative rightNegative left right
  rw [← WithBotTop.coe_strictMono.cmp_map_eq] at onGrid amongDecimals
  exact onGrid.trans amongDecimals.symm

/-- Two binary numbers have the same order on the grid as their shortest notations. -/
theorem cmp_binaries {left right : Binary64} (leftNumber : left.isNaN = false)
    (rightNumber : right.isNaN = false) :
    cmp (binary left).gridRank (binary right).gridRank =
      cmp (binary left).decimalRank (binary right).decimalRank := by
  cases left with
  | nan => cases leftNumber
  | infinity leftNegative =>
      cases right with
      | nan => cases rightNumber
      | infinity rightNegative => cases leftNegative <;> cases rightNegative <;> rfl
      | finite rightNegative magnitude => cases leftNegative <;> rfl
  | finite leftNegative leftMagnitude =>
      cases right with
      | nan => cases rightNumber
      | infinity rightNegative => cases rightNegative <;> rfl
      | finite rightNegative rightMagnitude =>
          exact cmp_finite leftNegative rightNegative leftMagnitude rightMagnitude

end Number

end Predicates
