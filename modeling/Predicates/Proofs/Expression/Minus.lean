/-
This file shows how far the minus sign reverses the order of numbers and is undone by a second one.
Decimals are rounded to the working precision when they are negated, and everything else is exact.
-/

import Predicates.Proofs.Expression.KindSoundness
import Predicates.Proofs.Number.Reversal
import Predicates.Proofs.Value.Coherence

namespace Predicates

namespace Number

variable {left right : Number}

/-- The answers of all operators follow from the order of two numbers. -/
theorem holds_of_order? (leftNumber : left.isNaN = false) (rightNumber : right.isNaN = false)
    (operator : Comparison) :
    operator.holds (.number left) (.number right) =
      .ok (operator.answer (left.order? right = some .eq) (left.order? right)) := by
  have equality : (Value.number left).equals (.number right) = _ :=
    equals_of_number leftNumber rightNumber
  have compared : (Value.number left).compare (.number right) = _ :=
    compare_of_number leftNumber rightNumber
  exact Comparison.holds_eq_answer equality compared operator

/-- The mirrored operator answers the same with the sides exchanged. -/
theorem holds_mirrored (leftNumber : left.isNaN = false) (rightNumber : right.isNaN = false)
    (operator : Comparison) :
    operator.mirrored.holds (.number right) (.number left) =
      operator.holds (.number left) (.number right) := by
  have level : decide (right.order? left = some .eq) = decide (left.order? right = some .eq) := by
    rw [order?_swap leftNumber rightNumber, decide_eq_decide]
    exact swapped_eq_iff
  rw [holds_of_order? rightNumber leftNumber, holds_of_order? leftNumber rightNumber, level,
    order?_swap leftNumber rightNumber, Comparison.answer_mirrored]

end Number

namespace Expression

variable {environment : String → Option Value} {operand first second : Expression}
variable {left right number opposite : Number}

def minus (operand : Expression) : Expression :=
  .unary .minus operand

def HasNumber (environment : String → Option Value) (expression : Expression) (number : Number) :
    Prop :=
  expression.evaluate environment = .ok (.number number)

/-- The minus sign negates the number of its operand. -/
theorem HasNumber.minus_iff (known : operand.HasNumber environment number) :
    operand.minus.HasNumber environment opposite ↔ number.negate = .ok opposite := by
  have evaluated : operand.minus.evaluate environment = (Value.number number).negate := by
    rw [minus, evaluate, known]
    rfl
  rw [HasNumber, evaluated, Value.negate, Outcome.mapError_eq_ok, Outcome.map_eq_ok]
  constructor
  · rintro ⟨result, negated, same⟩
    cases same
    exact negated
  · intro negated
    exact ⟨opposite, negated, rfl⟩

theorem evaluate_comparison (firstKnown : first.HasNumber environment left)
    (secondKnown : second.HasNumber environment right) (operator : Comparison) :
    (comparison operator first second).evaluate environment =
      ((operator.holds (.number left) (.number right)).map .bool).mapError .decimal := by
  rw [evaluate, firstKnown, secondKnown]
  rfl

theorem zero_hasNumber (environment : String → Option Value) :
    (Expression.literal (.integer 0)).HasNumber environment (.integer 0) :=
  rfl

/-- What the minus sign does to two operands whose values are numbers. -/
structure MinusLaws (environment : String → Option Value) (first second : Expression)
    (left right : Number) : Prop where
  /-- A number that fits the working precision has a negation. -/
  negates : left.Fits → ∃ opposite, first.minus.HasNumber environment opposite
  /-- A negation can be negated again, and this gives the number back exactly when it fits. -/
  restores : ∀ opposite, first.minus.HasNumber environment opposite →
    ∃ restored, first.minus.minus.HasNumber environment restored ∧
      (restored.equals left = .ok true ↔ left.Fits)
  /-- The order of two numbers that fit is reversed, for all operators. -/
  reverses : left.Fits → right.Fits →
    ∃ leftOpposite rightOpposite, first.minus.HasNumber environment leftOpposite ∧
      second.minus.HasNumber environment rightOpposite ∧
      leftOpposite.compare rightOpposite = right.compare left ∧
      ∀ operator : Comparison,
        (comparison operator first.minus second.minus).evaluate environment =
          (comparison operator second first).evaluate environment
  /-- The order of any two numbers is the reverse order of what is left of them. -/
  reversesRounded : ∀ leftOpposite rightOpposite leftRestored rightRestored,
    first.minus.HasNumber environment leftOpposite →
    second.minus.HasNumber environment rightOpposite →
    first.minus.minus.HasNumber environment leftRestored →
    second.minus.minus.HasNumber environment rightRestored →
    leftOpposite.compare rightOpposite = rightRestored.compare leftRestored
  /-- Two decimals in order stand in the reverse order, or together when rounding joins them. -/
  keepsOrder : ∀ leftOpposite rightOpposite, first.minus.HasNumber environment leftOpposite →
    second.minus.HasNumber environment rightOpposite →
    left.isDecimal = true ∨ right.isDecimal = true → left.NegatedAsDecimal →
    right.NegatedAsDecimal → left.compare right ≠ .ok (some .gt) →
    rightOpposite.compare leftOpposite ≠ .ok (some .gt)
  /-- A number moves to the other side of zero unless it is rounded to zero. -/
  crossesZero : ∀ opposite, first.minus.HasNumber environment opposite →
    (opposite.equals (.integer 0) = .ok true → left.equals (.integer 0) = .ok true) →
    opposite.compare (.integer 0) = (Number.integer 0).compare left ∧
      ∀ operator : Comparison,
        (comparison operator first.minus (.literal (.integer 0))).evaluate environment =
          (comparison operator.mirrored first (.literal (.integer 0))).evaluate environment

/-- A comparison of negated numbers that fit is the comparison with the sides exchanged. -/
theorem evaluate_reversed (firstKnown : first.HasNumber environment left)
    (secondKnown : second.HasNumber environment right) (leftNumber : left.isNaN = false)
    (rightNumber : right.isNaN = false) (leftFits : left.Fits) (rightFits : right.Fits) :
    ∃ leftOpposite rightOpposite, first.minus.HasNumber environment leftOpposite ∧
      second.minus.HasNumber environment rightOpposite ∧
      leftOpposite.compare rightOpposite = right.compare left ∧
      ∀ operator : Comparison,
        (comparison operator first.minus second.minus).evaluate environment =
          (comparison operator second first).evaluate environment := by
  obtain ⟨leftOpposite, leftNegated⟩ := Number.exists_negate leftFits
  obtain ⟨rightOpposite, rightNegated⟩ := Number.exists_negate rightFits
  have leftSide := Number.opposite_of_negate leftFits leftNumber leftNegated
  have rightSide := Number.opposite_of_negate rightFits rightNumber rightNegated
  have order := leftSide.order? rightSide leftNumber rightNumber
  have firstNegated := firstKnown.minus_iff.mpr leftNegated
  have secondNegated := secondKnown.minus_iff.mpr rightNegated
  refine ⟨leftOpposite, rightOpposite, firstNegated, secondNegated, ?_, ?_⟩
  · rw [Number.compare_of_number leftSide.isNumber rightSide.isNumber,
      Number.compare_of_number rightNumber leftNumber, order]
  · intro operator
    rw [evaluate_comparison firstNegated secondNegated, evaluate_comparison secondKnown firstKnown,
      Number.holds_of_order? leftSide.isNumber rightSide.isNumber,
      Number.holds_of_order? rightNumber leftNumber, order]

/-- A comparison of a negated number with zero is the mirrored comparison of the number itself. -/
theorem evaluate_with_zero (known : operand.HasNumber environment number)
    (isNumber : number.isNaN = false) (negated : number.negate = .ok opposite)
    (kept : opposite.equals (.integer 0) = .ok true → number.equals (.integer 0) = .ok true) :
    opposite.compare (.integer 0) = (Number.integer 0).compare number ∧
      ∀ operator : Comparison,
        (comparison operator operand.minus (.literal (.integer 0))).evaluate environment =
          (comparison operator.mirrored operand (.literal (.integer 0))).evaluate environment := by
  have oppositeNumber := Number.isNaN_negate isNumber negated
  have zeroNumber : (Number.integer 0).isNaN = false := rfl
  rw [Number.equals_of_number oppositeNumber zeroNumber,
    Number.equals_of_number isNumber zeroNumber, Except.ok.injEq, Except.ok.injEq,
    decide_eq_true_eq, decide_eq_true_eq] at kept
  have order := Number.order?_zero_of_negate isNumber negated kept
  constructor
  · rw [Number.compare_of_number oppositeNumber zeroNumber,
      Number.compare_of_number zeroNumber isNumber, order]
  · intro operator
    have zero := zero_hasNumber environment
    rw [evaluate_comparison (known.minus_iff.mpr negated) zero, evaluate_comparison known zero,
      Number.holds_mirrored zeroNumber isNumber, Number.holds_of_order? oppositeNumber zeroNumber,
      Number.holds_of_order? zeroNumber isNumber, order]

/-- Numbers that fit the working precision are reversed exactly, and the laws say what is left of
this for the numbers that minus rounds. -/
theorem minus_laws (firstKnown : first.HasNumber environment left)
    (secondKnown : second.HasNumber environment right) (leftNumber : left.isNaN = false)
    (rightNumber : right.isNaN = false) : MinusLaws environment first second left right where
  negates fits := by
    obtain ⟨opposite, negated⟩ := Number.exists_negate fits
    exact ⟨opposite, firstKnown.minus_iff.mpr negated⟩
  restores opposite firstNegated := by
    have negated := firstKnown.minus_iff.mp firstNegated
    obtain ⟨restored, again⟩ := Number.exists_negate (Number.fits_of_negate leftNumber negated)
    exact ⟨restored, firstNegated.minus_iff.mpr again,
      Number.equals_restored_iff leftNumber negated again⟩
  reverses := evaluate_reversed firstKnown secondKnown leftNumber rightNumber
  reversesRounded leftOpposite rightOpposite leftRestored rightRestored firstNegated secondNegated
      firstAgain secondAgain := by
    have leftNegated := firstKnown.minus_iff.mp firstNegated
    have rightNegated := secondKnown.minus_iff.mp secondNegated
    have leftAgain := firstNegated.minus_iff.mp firstAgain
    have rightAgain := secondNegated.minus_iff.mp secondAgain
    have leftOppositeNumber := Number.isNaN_negate leftNumber leftNegated
    have rightOppositeNumber := Number.isNaN_negate rightNumber rightNegated
    rw [Number.compare_of_number leftOppositeNumber rightOppositeNumber,
      Number.compare_of_number (Number.isNaN_negate rightOppositeNumber rightAgain)
        (Number.isNaN_negate leftOppositeNumber leftAgain),
      Number.order?_restored leftNumber rightNumber leftNegated rightNegated leftAgain rightAgain]
  keepsOrder leftOpposite rightOpposite firstNegated secondNegated someDecimal leftAsDecimal
      rightAsDecimal inOrder := by
    have leftNegated := firstKnown.minus_iff.mp firstNegated
    have rightNegated := secondKnown.minus_iff.mp secondNegated
    rw [Number.compare_of_number leftNumber rightNumber, Ne, Except.ok.injEq] at inOrder
    rw [Number.compare_of_number (Number.isNaN_negate rightNumber rightNegated)
      (Number.isNaN_negate leftNumber leftNegated), Ne, Except.ok.injEq]
    exact Number.order?_ne_gt_of_negate someDecimal leftAsDecimal rightAsDecimal leftNumber
      rightNumber leftNegated rightNegated inOrder
  crossesZero opposite firstNegated kept :=
    evaluate_with_zero firstKnown leftNumber (firstKnown.minus_iff.mp firstNegated) kept

/-- A number of twenty-nine digits fits when the last one is zero, and it is reversed exactly. -/
theorem minus_laws_trailing_zero :
    let left := Number.decimal (.finite false 12345678901234567890123456780 (-5))
    let right := Number.binary (.ofBits 0x3fb999999999999a)
    let environment (name : String) : Option Value :=
      if name = "x" then some (.number left)
      else if name = "y" then some (.number right)
      else none
    left.Fits ∧ right.Fits ∧
      MinusLaws environment (.identifier "x") (.identifier "y") left right ∧
      (comparison .below (minus (.identifier "x")) (minus (.identifier "y"))).evaluate environment =
        .ok (.bool true) := by
  intro left right environment
  have firstKnown : (Expression.identifier "x").HasNumber environment left := rfl
  have secondKnown : (Expression.identifier "y").HasNumber environment right := rfl
  have laws := minus_laws firstKnown secondKnown (by decide +kernel) (by decide +kernel)
  have leftFits : left.Fits := by
    refine ⟨.finite false 1234567890123456789012345678 (-4), Or.inr ?_, ?_⟩
    · decide +kernel
    · decide +kernel
  obtain ⟨-, -, -, -, -, reversed⟩ := laws.reverses leftFits trivial
  have answered : Comparison.below.holds (.number right) (.number left) = .ok true := by
    decide +kernel
  refine ⟨leftFits, trivial, laws, (reversed .below).trans ?_⟩
  rw [evaluate_comparison secondKnown firstKnown, answered]
  rfl

end Expression

/-- Two numbers of twenty-nine digits are rounded to the same number, so that neither the numbers
nor their order come back. -/
theorem minus_rounds :
    let left := Number.decimal (.finite false 12345678901234567890123456789 0)
    let right := Number.decimal (.finite false 12345678901234567890123456788 0)
    let slots : List Slot := [⟨"x", .decimal⟩, ⟨"y", .decimal⟩]
    let answers (text : String) (truth : Bool) : Prop := ∃ compiled,
      compile text slots = .ok compiled ∧
        compiled.execute [.number left, .number right] = .ok truth
    left.isNaN = false ∧ right.isNaN = false ∧ answers "x == --x" false ∧
      answers "-x < -y" false ∧ answers "y < x" true := by
  intro left right slots answers
  let opposite (name : String) : Expression := .minus (.identifier name)
  have restored : answers "x == --x" false := by
    let root : Expression := .comparison .equal (.identifier "x") (.minus (opposite "x"))
    refine ⟨⟨"x == --x", slots, root, .bool⟩, ?_, ?_⟩
    · with_unfolding_all rfl
    · decide +kernel
  have reversed : answers "-x < -y" false := by
    let root : Expression := .comparison .below (opposite "x") (opposite "y")
    refine ⟨⟨"-x < -y", slots, root, .bool⟩, ?_, ?_⟩
    · with_unfolding_all rfl
    · decide +kernel
  have original : answers "y < x" true := by
    let root : Expression := .comparison .below (.identifier "y") (.identifier "x")
    refine ⟨⟨"y < x", slots, root, .bool⟩, ?_, ?_⟩
    · with_unfolding_all rfl
    · decide +kernel
  exact ⟨rfl, rfl, restored, reversed, original⟩

end Predicates
