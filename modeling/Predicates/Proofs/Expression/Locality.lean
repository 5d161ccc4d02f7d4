/-
This file shows that an expression looks only at the names that occur in it.
-/

import Predicates.Proofs.Expression.Structure

namespace Predicates.Expression

variable {firstSlots secondSlots : List Slot} {first second : String → Option Value}
  {connective : Connective} {operands : List Expression} {expression : Expression}

theorem checkOperands_congr
    (same : ∀ operand ∈ operands, operand.check firstSlots = operand.check secondSlots) :
    checkOperands firstSlots connective operands =
      checkOperands secondSlots connective operands := by
  induction operands with
  | nil => rfl
  | cons operand rest inductionHypothesis =>
      have restSame := inductionHypothesis fun other member =>
        same other (List.mem_cons_of_mem operand member)
      rw [checkOperands, checkOperands, same operand List.mem_cons_self, restSame]

theorem evaluateChain_congr
    (same : ∀ operand ∈ operands, operand.evaluate first = operand.evaluate second) :
    evaluateChain first connective operands = evaluateChain second connective operands := by
  induction operands with
  | nil => rfl
  | cons operand rest inductionHypothesis =>
      have restSame := inductionHypothesis fun other member =>
        same other (List.mem_cons_of_mem operand member)
      rw [evaluateChain, evaluateChain, same operand List.mem_cons_self, restSame]

/-- The check asks the slots only for the kinds of the names that occur. -/
theorem check_congr (agree : ∀ name ∈ expression.occurrences,
      Slot.kindOf? firstSlots name = Slot.kindOf? secondSlots name) :
    expression.check firstSlots = expression.check secondSlots := by
  induction expression with
  | literal value => rfl
  | identifier name =>
      rw [check, check, agree name (by simp [occurrences])]
  | comparison operator left right leftHypothesis rightHypothesis =>
      have leftSame := leftHypothesis fun name member =>
        agree name (List.mem_append_left right.occurrences member)
      have rightSame := rightHypothesis fun name member =>
        agree name (List.mem_append_right left.occurrences member)
      rw [check, check, leftSame, rightSame]
  | logical connective operands inductionHypothesis =>
      have operandsSame : checkOperands firstSlots connective operands =
          checkOperands secondSlots connective operands := by
        apply checkOperands_congr
        intro operand member
        exact inductionHypothesis operand member fun name found =>
          agree name (mem_listOccurrences.mpr ⟨operand, member, found⟩)
      rw [check, check, operandsSame]
  | unary operator operand inductionHypothesis =>
      have operandSame := inductionHypothesis agree
      cases operator with
      | not => rw [check, check, operandSame]
      | minus => rw [check, check, operandSame]

/-- The evaluation asks the environment only for the values of the names that occur. -/
theorem evaluate_congr (agree : ∀ name ∈ expression.occurrences, first name = second name) :
    expression.evaluate first = expression.evaluate second := by
  induction expression with
  | literal value => rfl
  | identifier name =>
      rw [evaluate, evaluate, agree name (by simp [occurrences])]
  | comparison operator left right leftHypothesis rightHypothesis =>
      have leftSame := leftHypothesis fun name member =>
        agree name (List.mem_append_left right.occurrences member)
      have rightSame := rightHypothesis fun name member =>
        agree name (List.mem_append_right left.occurrences member)
      rw [evaluate, evaluate, leftSame, rightSame]
  | logical connective operands inductionHypothesis =>
      have operandsSame :
          evaluateChain first connective operands = evaluateChain second connective operands := by
        apply evaluateChain_congr
        intro operand member
        exact inductionHypothesis operand member fun name found =>
          agree name (mem_listOccurrences.mpr ⟨operand, member, found⟩)
      rw [evaluate, evaluate, operandsSame]
  | unary operator operand inductionHypothesis =>
      have operandSame := inductionHypothesis agree
      cases operator with
      | not => rw [evaluate, evaluate, operandSame]
      | minus => rw [evaluate, evaluate, operandSame]

end Predicates.Expression
