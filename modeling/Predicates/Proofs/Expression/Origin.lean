/-
This file traces the failure of a check or of an evaluation to one node of the tree.
-/

import Predicates.Proofs.Expression.Structure

namespace Predicates.Expression

/-- The node itself fails the check: it is a name without a slot, or its operator refuses the kind
of an operand. -/
inductive FailsCheck (slots : List Slot) : Expression → TypingError → Prop where
  | identifier {name : String} (missing : Slot.kindOf? slots name = none) :
      FailsCheck slots (.identifier name) (.unresolved name)
  | chain {connective : Connective} {operands : List Expression} {operand : Expression}
      {kind : Kind} (member : operand ∈ operands) (checked : operand.check slots = .ok kind)
      (refused : kind.isCondition = false) :
      FailsCheck slots (.logical connective operands) (.operandNotCondition (.chain connective) kind)
  | not {operand : Expression} {kind : Kind} (checked : operand.check slots = .ok kind)
      (refused : kind.isCondition = false) :
      FailsCheck slots (.unary .not operand) (.operandNotCondition .not kind)
  | minus {operand : Expression} {kind : Kind} (checked : operand.check slots = .ok kind)
      (refused : (kind.isNumeric || kind = .object) = false) :
      FailsCheck slots (.unary .minus operand) (.operandNotNumeric kind)

/-- The node itself fails to be evaluated: it is a name without a value, or its operator refuses
the values of its operands. -/
inductive FailsEvaluation (environment : String → Option Value) :
    Expression → EvaluationError → Prop where
  | identifier {name : String} (missing : environment name = none) :
      FailsEvaluation environment (.identifier name) (.unbound name)
  | comparison {operator : Comparison} {left right : Expression} {leftValue rightValue : Value}
      {signal : DecimalSignal} (leftEvaluated : left.evaluate environment = .ok leftValue)
      (rightEvaluated : right.evaluate environment = .ok rightValue)
      (raised : operator.holds leftValue rightValue = .error signal) :
      FailsEvaluation environment (.comparison operator left right) (.decimal signal)
  | chain {connective : Connective} {operands : List Expression} {operand : Expression}
      {value : Value} {error : EvaluationError} (member : operand ∈ operands)
      (evaluated : operand.evaluate environment = .ok value)
      (refused : value.condition (.chain connective) = .error error) :
      FailsEvaluation environment (.logical connective operands) error
  | not {operand : Expression} {value : Value} {error : EvaluationError}
      (evaluated : operand.evaluate environment = .ok value)
      (refused : value.condition .not = .error error) :
      FailsEvaluation environment (.unary .not operand) error
  | minus {operand : Expression} {value : Value} {error : EvaluationError}
      (evaluated : operand.evaluate environment = .ok value)
      (refused : value.negate = .error error) :
      FailsEvaluation environment (.unary .minus operand) error

variable {slots : List Slot} {environment : String → Option Value} {connective : Connective}
  {operands : List Expression} {expression : Expression}

/-- A chain fails the check at an operand that fails or that is no condition. -/
theorem checkOperands_eq_error {error : TypingError}
    (failed : checkOperands slots connective operands = .error error) :
    ∃ operand ∈ operands, operand.check slots = .error error ∨
      ∃ kind, operand.check slots = .ok kind ∧
        requireCondition (.chain connective) kind = .error error := by
  induction operands with
  | nil => simp [checkOperands] at failed
  | cons first rest inductionHypothesis =>
      rcases Outcome.bind_eq_error.mp failed with operandFailed | ⟨kind, checked, failed⟩
      · exact ⟨first, List.mem_cons_self, Or.inl operandFailed⟩
      · rcases Outcome.bind_eq_error.mp failed with refused | ⟨-, -, failed⟩
        · exact ⟨first, List.mem_cons_self, Or.inr ⟨kind, checked, refused⟩⟩
        · obtain ⟨operand, member, fault⟩ := inductionHypothesis failed
          exact ⟨operand, List.mem_cons_of_mem first member, fault⟩

theorem requireCondition_eq_error {operator : LogicalOperator} {kind : Kind} {error : TypingError} :
    requireCondition operator kind = .error error ↔
      kind.isCondition = false ∧ error = .operandNotCondition operator kind := by
  unfold requireCondition
  cases kind.isCondition <;> simp [eq_comm]

theorem negationKind_eq_error {kind : Kind} {error : TypingError} :
    negationKind kind = .error error ↔
      (kind.isNumeric || kind = .object) = false ∧ error = .operandNotNumeric kind := by
  unfold negationKind
  cases (kind.isNumeric || decide (kind = .object)) <;> simp [eq_comm]

/-- Every failure of a check comes from a node that fails itself. -/
theorem exists_failsCheck {error : TypingError} (failed : expression.check slots = .error error) :
    ∃ node, expression.HasNode node ∧ node.FailsCheck slots error := by
  induction expression with
  | literal value => simp [check] at failed
  | identifier name =>
      simp only [check] at failed
      split at failed
      · simp at failed
      · rename_i missing
        cases failed
        exact ⟨_, .root _, .identifier missing⟩
  | comparison operator left right leftHypothesis rightHypothesis =>
      rcases Outcome.bind_eq_error.mp failed with leftFailed | ⟨-, -, failed⟩
      · obtain ⟨node, below, fault⟩ := leftHypothesis leftFailed
        exact ⟨node, .left below, fault⟩
      · rcases Outcome.bind_eq_error.mp failed with rightFailed | ⟨-, -, impossible⟩
        · obtain ⟨node, below, fault⟩ := rightHypothesis rightFailed
          exact ⟨node, .right below, fault⟩
        · cases impossible
  | logical connective operands inductionHypothesis =>
      rcases Outcome.bind_eq_error.mp failed with chainFailed | ⟨-, -, impossible⟩
      · obtain ⟨operand, member, operandFailed | ⟨kind, checked, refused⟩⟩ :=
          checkOperands_eq_error chainFailed
        · obtain ⟨node, below, fault⟩ := inductionHypothesis operand member operandFailed
          exact ⟨node, .operand member below, fault⟩
        · obtain ⟨notCondition, rfl⟩ := requireCondition_eq_error.mp refused
          exact ⟨_, .root _, .chain member checked notCondition⟩
      · cases impossible
  | unary operator operand inductionHypothesis =>
      have lift : operand.check slots = .error error →
          ∃ node, (unary operator operand).HasNode node ∧ node.FailsCheck slots error := by
        intro operandFailed
        obtain ⟨node, below, fault⟩ := inductionHypothesis operandFailed
        exact ⟨node, .inner below, fault⟩
      cases operator with
      | not =>
          rcases Outcome.bind_eq_error.mp failed with operandFailed | ⟨kind, checked, failed⟩
          · exact lift operandFailed
          · rcases Outcome.bind_eq_error.mp failed with refused | ⟨-, -, impossible⟩
            · obtain ⟨notCondition, rfl⟩ := requireCondition_eq_error.mp refused
              exact ⟨_, .root _, .not checked notCondition⟩
            · cases impossible
      | minus =>
          rcases Outcome.bind_eq_error.mp failed with operandFailed | ⟨kind, checked, refused⟩
          · exact lift operandFailed
          · obtain ⟨notNumeric, rfl⟩ := negationKind_eq_error.mp refused
            exact ⟨_, .root _, .minus checked notNumeric⟩

/-- Every failure of an evaluation comes from a node that fails itself. -/
theorem exists_failsEvaluation {error : EvaluationError}
    (failed : expression.evaluate environment = .error error) :
    ∃ node, expression.HasNode node ∧ node.FailsEvaluation environment error := by
  induction expression with
  | literal value => simp [evaluate] at failed
  | identifier name =>
      simp only [evaluate] at failed
      split at failed
      · simp at failed
      · rename_i missing
        cases failed
        exact ⟨_, .root _, .identifier missing⟩
  | comparison operator left right leftHypothesis rightHypothesis =>
      rcases Outcome.bind_eq_error.mp failed with leftFailed | ⟨leftValue, leftEvaluated, failed⟩
      · obtain ⟨node, below, fault⟩ := leftHypothesis leftFailed
        exact ⟨node, .left below, fault⟩
      · rcases Outcome.bind_eq_error.mp failed with
          rightFailed | ⟨rightValue, rightEvaluated, failed⟩
        · obtain ⟨node, below, fault⟩ := rightHypothesis rightFailed
          exact ⟨node, .right below, fault⟩
        · obtain ⟨signal, raised, rfl⟩ := Outcome.mapError_eq_error.mp failed
          exact ⟨_, .root _,
            .comparison leftEvaluated rightEvaluated (Outcome.map_eq_error.mp raised)⟩
  | logical connective operands inductionHypothesis =>
      rcases Outcome.bind_eq_error.mp failed with chainFailed | ⟨truth, -, impossible⟩
      · obtain ⟨operand, member, operandFailed | ⟨value, evaluated, refused⟩⟩ :=
          evaluateChain_eq_error chainFailed
        · obtain ⟨node, below, fault⟩ := inductionHypothesis operand member operandFailed
          exact ⟨node, .operand member below, fault⟩
        · exact ⟨_, .root _, .chain member evaluated refused⟩
      · cases impossible
  | unary operator operand inductionHypothesis =>
      have lift : operand.evaluate environment = .error error →
          ∃ node, (unary operator operand).HasNode node ∧
            node.FailsEvaluation environment error := by
        intro operandFailed
        obtain ⟨node, below, fault⟩ := inductionHypothesis operandFailed
        exact ⟨node, .inner below, fault⟩
      cases operator with
      | not =>
          rcases Outcome.bind_eq_error.mp failed with operandFailed | ⟨value, evaluated, failed⟩
          · exact lift operandFailed
          · rcases Outcome.bind_eq_error.mp failed with refused | ⟨truth, -, impossible⟩
            · exact ⟨_, .root _, .not evaluated refused⟩
            · cases impossible
      | minus =>
          rcases Outcome.bind_eq_error.mp failed with operandFailed | ⟨value, evaluated, refused⟩
          · exact lift operandFailed
          · exact ⟨_, .root _, .minus evaluated refused⟩

end Predicates.Expression
