/-
This file shows that the negation of a chain does the same as the chain of the other connective over
the negated operands, in the check and in the evaluation, also where an operand fails.
-/

import Predicates.Proofs.Expression.Structure

namespace Predicates

def Connective.dual : Connective → Connective
  | .and => .or
  | .or => .and

theorem Connective.decisive_dual (connective : Connective) :
    connective.dual.decisive = !connective.decisive := by
  cases connective <;> rfl

/-- Two faults of the check are the same up to the operator that refuses the kind of its operand. -/
inductive TypingError.SameFault : TypingError → TypingError → Prop where
  | same (error : TypingError) : SameFault error error
  | refused (left right : LogicalOperator) (kind : Kind) :
      SameFault (.operandNotCondition left kind) (.operandNotCondition right kind)

/-- Two faults of an evaluation are the same up to the operator that refuses its operand. -/
inductive EvaluationError.SameFault : EvaluationError → EvaluationError → Prop where
  | same (error : EvaluationError) : SameFault error error
  | refused (left right : LogicalOperator) (kind : Kind) :
      SameFault (.operandNotBoolean left kind) (.operandNotBoolean right kind)

/-- All operators take the same kinds for conditions. -/
theorem requireCondition_alike (left right : LogicalOperator) (kind : Kind) :
    Outcome.Alike TypingError.SameFault Eq (requireCondition left kind)
      (requireCondition right kind) := by
  unfold requireCondition
  split
  · exact .ok rfl
  · exact .error (.refused left right kind)

/-- All operators find the same truth in a value. -/
theorem Value.condition_alike (left right : LogicalOperator) (value : Value) :
    Outcome.Alike EvaluationError.SameFault Eq (value.condition left) (value.condition right) := by
  cases value with
  | bool truth => exact .ok rfl
  | _ => exact .error (.refused left right _)

namespace Expression

variable {slots : List Slot} {environment : String → Option Value}

/-- The operands of a chain pass the check as their negations do. -/
theorem checkOperands_negated (connective other : Connective) (operands : List Expression) :
    Outcome.Alike TypingError.SameFault Eq (checkOperands slots connective operands)
      (checkOperands slots other (operands.map (.unary .not))) := by
  induction operands with
  | nil => exact .ok rfl
  | cons first rest inductionHypothesis =>
      rw [List.map_cons, checkOperands, checkOperands, check, bind_assoc]
      apply (Outcome.Alike.refl TypingError.SameFault.same _).bind
      rintro kind - - rfl
      rw [bind_assoc]
      apply (requireCondition_alike _ _ kind).bind
      intro _ _ _ _
      -- The negation is a boolean, so the outer chain accepts it.
      exact inductionHypothesis

/-- The operand that settles a chain settles the other chain too, after it was negated. -/
theorem evaluateChain_negated (connective : Connective) (operands : List Expression) :
    Outcome.Alike EvaluationError.SameFault (fun truth negated => negated = !truth)
      (evaluateChain environment connective operands)
      (evaluateChain environment connective.dual (operands.map (.unary .not))) := by
  induction operands with
  | nil => exact .ok (by rw [connective.decisive_dual])
  | cons first rest inductionHypothesis =>
      rw [List.map_cons, evaluateChain, evaluateChain, evaluate, bind_assoc]
      apply (Outcome.Alike.refl EvaluationError.SameFault.same _).bind
      rintro value - - rfl
      rw [bind_assoc]
      apply (value.condition_alike _ _).bind
      rintro truth - - rfl
      simp only [pure_bind, Value.condition]
      change Outcome.Alike _ _ _
        (if (!truth) = connective.dual.decisive then pure !truth else _)
      rw [connective.decisive_dual]
      by_cases decisive : truth = connective.decisive
      · rw [if_pos decisive, if_pos (congrArg not decisive)]
        exact .ok rfl
      · rw [if_neg decisive, if_neg fun same => decisive (Bool.not_inj same)]
        exact inductionHypothesis

/-- The negation of a chain and the chain of the other connective over the negated operands pass the
check with the same kind or fail with the same fault, and they have the same value or fail with the
same fault. -/
theorem negated_chain (connective : Connective) (operands : List Expression) :
    (∀ slots, Outcome.Alike TypingError.SameFault Eq
      ((Expression.unary .not (.logical connective operands)).check slots)
      ((Expression.logical connective.dual (operands.map (.unary .not))).check slots)) ∧
    ∀ environment, Outcome.Alike EvaluationError.SameFault Eq
      ((Expression.unary .not (.logical connective operands)).evaluate environment)
      ((Expression.logical connective.dual (operands.map (.unary .not))).evaluate environment) := by
  constructor
  · intro slots
    rw [check, check, check, bind_assoc]
    apply (checkOperands_negated connective connective.dual operands).bind
    intro _ _ _ _
    exact .ok rfl
  · intro environment
    rw [evaluate, evaluate, evaluate, bind_assoc]
    apply (evaluateChain_negated connective operands).bind
    rintro truth - - rfl
    exact .ok rfl

end Expression

end Predicates
