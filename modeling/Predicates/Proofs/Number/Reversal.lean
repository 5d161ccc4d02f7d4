/-
This file shows that negation takes numbers to the opposite ranks, so that it reverses their order
as far as the working precision allows.
-/

import Predicates.Proofs.Number.Consistency
import Predicates.Proofs.Number.WorkingPrecision

namespace Predicates

/-- The opposite rank stands as far on the other side of zero. -/
def oppositeRank {Place : Type} [Neg Place] : WithBotTop Place → WithBotTop Place
  | ⊥ => ⊤
  | (place : Place) => WithBotTop.coe (-place)
  | ⊤ => ⊥

section Opposite

variable {Place : Type} [AddCommGroup Place]

theorem oppositeRank_twice (rank : WithBotTop Place) : oppositeRank (oppositeRank rank) = rank := by
  induction rank using WithBotTop.rec with
  | bot => rfl
  | coe place => exact congrArg WithBotTop.coe (neg_neg place)
  | top => rfl

theorem oppositeRank_infinity (negative : Bool) :
    oppositeRank (infinityRank negative : WithBotTop Place) = infinityRank (!negative) := by
  cases negative <;> rfl

theorem oppositeRank_signedBy (negative : Bool) (magnitude : Place) :
    oppositeRank ((signedBy negative magnitude : Place) : WithBotTop Place) =
      (signedBy (!negative) magnitude : Place) := by
  cases negative with
  | false => rfl
  | true => exact congrArg WithBotTop.coe (neg_neg magnitude)

variable [LinearOrder Place] [IsOrderedAddMonoid Place]

theorem oppositeRank_strictAnti : StrictAnti (oppositeRank : WithBotTop Place → _) := by
  intro lower higher less
  induction lower using WithBotTop.rec with
  | bot =>
      induction higher using WithBotTop.rec with
      | bot => exact absurd less (lt_irrefl _)
      | coe place => exact WithBot.coe_lt_coe.mpr (WithTop.coe_lt_top _)
      | top => exact bot_lt_iff_ne_bot.mpr WithBotTop.top_ne_bot
  | coe place =>
      induction higher using WithBotTop.rec with
      | bot => exact absurd less not_lt_bot
      | coe other => exact WithBotTop.coe_lt_coe.mpr (neg_lt_neg (WithBotTop.coe_lt_coe.mp less))
      | top => exact bot_lt_iff_ne_bot.mpr (WithBotTop.coe_ne_bot _)
  | top => exact absurd less not_top_lt

end Opposite

namespace Decimal

variable {decimal opposite : Decimal}

theorem isNaN_rounded {negative : Bool} {coefficient : Nat} {exponent : Int}
    (found : rounded negative coefficient exponent = .ok opposite) : opposite.isNaN = false := by
  unfold rounded normalized at found
  dsimp only at found
  split at found
  · cases found
  · cases found
    split <;> rfl

theorem isNaN_negate (isNumber : decimal.isNaN = false) (negated : decimal.negate = .ok opposite) :
    opposite.isNaN = false := by
  cases decimal with
  | finite negative coefficient exponent =>
      obtain ⟨-, place, rfl⟩ | found := negate_finite_eq_ok negated
      · rfl
      · exact isNaN_rounded found
  | infinity negative =>
      cases negated
      rfl
  | quietNaN negative payload object => cases isNumber
  | signalingNaN negative payload object => cases isNumber

/-- A negated decimal stands opposite to what is left of the decimal in the working precision. -/
theorem rank_negate (isNumber : decimal.isNaN = false) (negated : decimal.negate = .ok opposite) :
    opposite.rank = oppositeRank decimal.workingRank := by
  cases decimal with
  | finite negative coefficient exponent =>
      rw [workingRank, oppositeRank_signedBy]
      obtain ⟨rfl, place, rfl⟩ | found := negate_finite_eq_ok negated
      · rw [rank, notationValue_zero, workingValue_zero]
        cases negative with
        | false => exact congrArg WithBotTop.coe neg_zero.symm
        | true => rfl
      · exact rank_rounded found
  | infinity negative =>
      cases negated
      exact (oppositeRank_infinity negative).symm
  | quietNaN negative payload object => cases isNumber
  | signalingNaN negative payload object => cases isNumber

end Decimal

namespace Number

variable {left right leftOpposite rightOpposite number opposite restored : Number}

/-- Only decimals can lose digits when they are negated. -/
def Fits : Number → Prop
  | .decimal value => value.Fits
  | _ => True

theorem fits_of_not_decimal (notDecimal : number.isDecimal = false) : number.Fits := by
  cases number with
  | decimal value => cases notDecimal
  | _ => trivial

/-- A number stands on the other side of zero, on the grid and among the decimals. -/
structure Opposite (number opposite : Number) : Prop where
  isDecimal : opposite.isDecimal = number.isDecimal
  isNumber : opposite.isNaN = false
  gridRank : number.isDecimal = false → opposite.gridRank = oppositeRank number.gridRank
  decimalRank : opposite.decimalRank = oppositeRank number.decimalRank

theorem exists_negate (fits : number.Fits) : ∃ opposite, number.negate = .ok opposite := by
  cases number with
  | integer value => exact ⟨_, rfl⟩
  | binary value => exact ⟨_, rfl⟩
  | decimal value =>
      obtain ⟨opposite, negated⟩ := Decimal.Fits.exists_negate fits
      exact ⟨.decimal opposite, congrArg (Except.map decimal) negated⟩

theorem opposite_integer (value : Int) : Opposite (integer value) (integer (-value)) where
  isDecimal := rfl
  isNumber := rfl
  gridRank _ := congrArg WithBotTop.coe (Int.neg_mul value _)
  decimalRank := by
    rw [decimalRank_integer, decimalRank_integer, Int.cast_neg]
    rfl

theorem opposite_binary {value : Binary64} (isNumber : value.isNaN = false) :
    Opposite (binary value) (binary value.negate) := by
  cases value with
  | nan => cases isNumber
  | infinity negative =>
      cases negative <;> exact ⟨rfl, rfl, fun _ => rfl, rfl⟩
  | finite negative magnitude =>
      exact ⟨rfl, rfl, fun _ => (oppositeRank_signedBy negative (Binary64.units magnitude : ℤ)).symm,
        (oppositeRank_signedBy negative (Binary64.shortestValue magnitude)).symm⟩

theorem opposite_decimal {value opposite : Decimal} (fits : value.Fits)
    (isNumber : value.isNaN = false) (negated : value.negate = .ok opposite) :
    Opposite (decimal value) (decimal opposite) where
  isDecimal := rfl
  isNumber := Decimal.isNaN_negate isNumber negated
  gridRank binary := by cases binary
  decimalRank := (Decimal.rank_negate isNumber negated).trans
    (congrArg oppositeRank fits.workingRank_eq)

/-- Negation reflects an integer or a binary number, and it negates a decimal as a decimal. -/
theorem negate_eq_ok (isNumber : number.isNaN = false) (negated : number.negate = .ok opposite) :
    (number.isDecimal = false ∧ Opposite number opposite) ∨
      ∃ value result, number = decimal value ∧ opposite = decimal result ∧
        value.negate = .ok result := by
  cases number with
  | integer value =>
      cases negated
      exact Or.inl ⟨rfl, opposite_integer value⟩
  | binary value =>
      cases negated
      exact Or.inl ⟨rfl, opposite_binary isNumber⟩
  | decimal value =>
      obtain ⟨result, found, rfl⟩ := Outcome.map_eq_ok.mp negated
      exact Or.inr ⟨value, result, rfl, rfl, found⟩

/-- A number that fits is negated without rounding. -/
theorem opposite_of_negate (fits : number.Fits) (isNumber : number.isNaN = false)
    (negated : number.negate = .ok opposite) : Opposite number opposite := by
  obtain ⟨-, sides⟩ | ⟨value, result, rfl, rfl, found⟩ := negate_eq_ok isNumber negated
  · exact sides
  · exact opposite_decimal fits isNumber found

theorem isNaN_negate (isNumber : number.isNaN = false) (negated : number.negate = .ok opposite) :
    opposite.isNaN = false := by
  obtain ⟨-, sides⟩ | ⟨value, result, rfl, rfl, found⟩ := negate_eq_ok isNumber negated
  · exact sides.isNumber
  · exact Decimal.isNaN_negate isNumber found

theorem isDecimal_negate (isNumber : number.isNaN = false)
    (negated : number.negate = .ok opposite) : opposite.isDecimal = number.isDecimal := by
  obtain ⟨-, sides⟩ | ⟨value, result, rfl, rfl, -⟩ := negate_eq_ok isNumber negated
  · exact sides.isDecimal
  · rfl

/-- Whatever negation leaves is negated without rounding. -/
theorem fits_of_negate (isNumber : number.isNaN = false)
    (negated : number.negate = .ok opposite) : opposite.Fits := by
  obtain ⟨notDecimal, sides⟩ | ⟨value, result, rfl, rfl, found⟩ := negate_eq_ok isNumber negated
  · exact fits_of_not_decimal (sides.isDecimal.trans notDecimal)
  · exact (Decimal.settled_of_negate found).fits (Decimal.isNaN_negate isNumber found)

/-- Numbers on the other side of zero have the reverse order. -/
theorem Opposite.order? (leftSide : Opposite left leftOpposite)
    (rightSide : Opposite right rightOpposite) (leftNumber : left.isNaN = false)
    (rightNumber : right.isNaN = false) :
    leftOpposite.order? rightOpposite = right.order? left := by
  by_cases someDecimal : left.isDecimal = true ∨ right.isDecimal = true
  · rw [order?_of_decimal someDecimal.symm rightNumber leftNumber,
      order?_of_decimal (by rwa [leftSide.isDecimal, rightSide.isDecimal]) leftSide.isNumber
        rightSide.isNumber, leftSide.decimalRank, rightSide.decimalRank,
      oppositeRank_strictAnti.cmp_map_eq]
  · rw [not_or, Bool.not_eq_true, Bool.not_eq_true] at someDecimal
    rw [order?_of_grid someDecimal.2 someDecimal.1 rightNumber leftNumber,
      order?_of_grid (leftSide.isDecimal.trans someDecimal.1)
        (rightSide.isDecimal.trans someDecimal.2) leftSide.isNumber rightSide.isNumber,
      leftSide.gridRank someDecimal.1, rightSide.gridRank someDecimal.2,
      oppositeRank_strictAnti.cmp_map_eq]

theorem Opposite.symm (sides : Opposite number opposite) (isNumber : number.isNaN = false) :
    Opposite opposite number where
  isDecimal := sides.isDecimal.symm
  isNumber := isNumber
  gridRank binary := by rw [sides.gridRank (sides.isDecimal.symm.trans binary), oppositeRank_twice]
  decimalRank := by rw [sides.decimalRank, oppositeRank_twice]

/-- The second negation gives the number back when the first one did not round it. -/
theorem equals_restored_iff (isNumber : number.isNaN = false)
    (negated : number.negate = .ok opposite) (again : opposite.negate = .ok restored) :
    restored.equals number = .ok true ↔ number.Fits := by
  have oppositeNumber := isNaN_negate isNumber negated
  have onceMore := opposite_of_negate (fits_of_negate isNumber negated) oppositeNumber again
  rw [equals_of_number onceMore.isNumber isNumber, Except.ok.injEq, decide_eq_true_eq]
  constructor
  · intro level
    obtain ⟨notDecimal, -⟩ | ⟨value, result, rfl, rfl, -⟩ := negate_eq_ok isNumber negated
    · exact fits_of_not_decimal notDecimal
    · obtain ⟨last, found, rfl⟩ := Outcome.map_eq_ok.mp again
      exact ⟨last, Decimal.settled_of_negate found, level⟩
  · intro fits
    have back := (opposite_of_negate fits isNumber negated).symm isNumber
    rw [onceMore.order? back oppositeNumber oppositeNumber, order?_self oppositeNumber]

/-- The order of two negated numbers is the reverse order of what is left of them. -/
theorem order?_restored {leftRestored rightRestored : Number} (leftNumber : left.isNaN = false)
    (rightNumber : right.isNaN = false) (leftNegated : left.negate = .ok leftOpposite)
    (rightNegated : right.negate = .ok rightOpposite)
    (leftAgain : leftOpposite.negate = .ok leftRestored)
    (rightAgain : rightOpposite.negate = .ok rightRestored) :
    leftOpposite.order? rightOpposite = rightRestored.order? leftRestored := by
  have leftIsNumber := isNaN_negate leftNumber leftNegated
  have rightIsNumber := isNaN_negate rightNumber rightNegated
  have leftBack := opposite_of_negate (fits_of_negate leftNumber leftNegated) leftIsNumber leftAgain
  have rightBack :=
    opposite_of_negate (fits_of_negate rightNumber rightNegated) rightIsNumber rightAgain
  exact (rightBack.order? leftBack rightIsNumber leftIsNumber).symm

/-- Decimals, and numbers whose decimals fit, are negated as decimals are. -/
def NegatedAsDecimal (number : Number) : Prop :=
  number.isDecimal = true ∨ number.toDecimal.Fits

theorem decimalRank_negate (asDecimal : number.NegatedAsDecimal) (isNumber : number.isNaN = false)
    (negated : number.negate = .ok opposite) :
    opposite.decimalRank = oppositeRank number.toDecimal.workingRank := by
  obtain ⟨notDecimal, sides⟩ | ⟨value, result, rfl, rfl, found⟩ := negate_eq_ok isNumber negated
  · have fits := asDecimal.resolve_left (by simp [notDecimal])
    rw [fits.workingRank_eq]
    exact sides.decimalRank
  · exact Decimal.rank_negate isNumber found

/-- Negation never keeps the order of two decimals, though it can bring them together. -/
theorem decimalRank_antitone (leftAsDecimal : left.NegatedAsDecimal)
    (rightAsDecimal : right.NegatedAsDecimal) (leftNumber : left.isNaN = false)
    (rightNumber : right.isNaN = false) (leftNegated : left.negate = .ok leftOpposite)
    (rightNegated : right.negate = .ok rightOpposite)
    (le : left.decimalRank ≤ right.decimalRank) :
    rightOpposite.decimalRank ≤ leftOpposite.decimalRank := by
  rw [decimalRank_negate leftAsDecimal leftNumber leftNegated,
    decimalRank_negate rightAsDecimal rightNumber rightNegated]
  exact oppositeRank_strictAnti.antitone (Decimal.workingRank_mono le)

/-- Two numbers that stand in order among the decimals are not out of order after negation. -/
theorem order?_ne_gt_of_negate (someDecimal : left.isDecimal = true ∨ right.isDecimal = true)
    (leftAsDecimal : left.NegatedAsDecimal) (rightAsDecimal : right.NegatedAsDecimal)
    (leftNumber : left.isNaN = false) (rightNumber : right.isNaN = false)
    (leftNegated : left.negate = .ok leftOpposite)
    (rightNegated : right.negate = .ok rightOpposite) (inOrder : left.order? right ≠ some .gt) :
    rightOpposite.order? leftOpposite ≠ some .gt := by
  have oppositeDecimal : leftOpposite.isDecimal = true ∨ rightOpposite.isDecimal = true := by
    rwa [isDecimal_negate leftNumber leftNegated, isDecimal_negate rightNumber rightNegated]
  rw [order?_of_decimal someDecimal leftNumber rightNumber, Ne, Option.some_inj, cmp_eq_gt_iff,
    not_lt] at inOrder
  rw [order?_of_decimal oppositeDecimal.symm (isNaN_negate rightNumber rightNegated)
    (isNaN_negate leftNumber leftNegated), Ne, Option.some_inj, cmp_eq_gt_iff, not_lt]
  exact decimalRank_antitone leftAsDecimal rightAsDecimal leftNumber rightNumber leftNegated
    rightNegated inOrder

theorem negatedAsDecimal_zero : (integer 0).NegatedAsDecimal :=
  Or.inr (Decimal.Settled.fits (Or.inl rfl) rfl)

/-- A number that is not lost in rounding is negated to the other side of zero. -/
theorem order?_zero_of_negate (isNumber : number.isNaN = false)
    (negated : number.negate = .ok opposite)
    (kept : opposite.order? (integer 0) = some .eq → number.order? (integer 0) = some .eq) :
    opposite.order? (integer 0) = (integer 0).order? number := by
  have zeroNegated : (integer 0).negate = .ok (integer 0) := rfl
  cases isDecimal : number.isDecimal with
  | false =>
      have fits := fits_of_not_decimal isDecimal
      exact (opposite_of_negate fits isNumber negated).order? (opposite_integer 0) isNumber rfl
  | true =>
      have oppositeNumber := isNaN_negate isNumber negated
      have oppositeDecimal := (isDecimal_negate isNumber negated).trans isDecimal
      rw [order?_of_decimal (Or.inl oppositeDecimal) oppositeNumber rfl,
        order?_of_decimal (Or.inl isDecimal) isNumber rfl, Option.some_inj, Option.some_inj,
        cmp_eq_eq_iff, cmp_eq_eq_iff] at kept
      rw [order?_of_decimal (Or.inl oppositeDecimal) oppositeNumber rfl,
        order?_of_decimal (Or.inr isDecimal) rfl isNumber]
      have fromBelow := decimalRank_antitone (Or.inl isDecimal) negatedAsDecimal_zero isNumber rfl
        negated zeroNegated
      have fromAbove := decimalRank_antitone negatedAsDecimal_zero (Or.inl isDecimal) rfl isNumber
        zeroNegated negated
      rcases lt_trichotomy number.decimalRank (integer 0).decimalRank with below | level | above
      · have apart : (integer 0).decimalRank < opposite.decimalRank :=
          lt_of_le_of_ne (fromBelow below.le) fun same => below.ne (kept same.symm)
        rw [apart.cmp_eq_gt, below.cmp_eq_gt]
      · rw [le_antisymm (fromAbove level.ge) (fromBelow level.le), level]
      · have apart : opposite.decimalRank < (integer 0).decimalRank :=
          lt_of_le_of_ne (fromAbove above.le) fun same => above.ne' (kept same)
        rw [apart.cmp_eq_lt, above.cmp_eq_lt]

end Number

end Predicates
