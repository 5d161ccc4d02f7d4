/-
This file shows that the operands of a chain can be grouped into chains of the same connective, and
that the whole keeps its kind, its value and its errors.
-/

import Predicates.Proofs.Expression.Structure

namespace Predicates.Expression

/-- Any part may be a chain of the connective, whose own parts may be such chains again. The operands
are what the parts hold between them, from left to right. -/
inductive Groups (connective : Connective) : List Expression → List Expression → Prop where
  | ended : Groups connective [] []
  | operand (first : Expression) {parts operands : List Expression}
      (behind : Groups connective parts operands) :
      Groups connective (first :: parts) (first :: operands)
  | chain {inner innerOperands parts operands : List Expression}
      (within : Groups connective inner innerOperands)
      (behind : Groups connective parts operands) :
      Groups connective (.logical connective inner :: parts) (innerOperands ++ operands)

section Chains

variable {slots : List Slot} {environment : String → Option Value} {connective : Connective}

/-- The operands of two rows are checked one row after the other. -/
theorem checkOperands_append (left right : List Expression) :
    checkOperands slots connective (left ++ right) =
      checkOperands slots connective left >>= fun _ => checkOperands slots connective right := by
  induction left with
  | nil => rfl
  | cons first rest inductionHypothesis =>
      simp only [List.cons_append, checkOperands, inductionHypothesis, bind_assoc]

/-- A chain is a condition, so among other operands only its own operands can be refused. -/
theorem checkOperands_cons_chain (inner rest : List Expression) :
    checkOperands slots connective (.logical connective inner :: rest) =
      checkOperands slots connective inner >>= fun _ => checkOperands slots connective rest := by
  rw [checkOperands, check, bind_assoc]
  rfl

/-- The second row is looked at when nothing in the first one is decisive. -/
theorem evaluateChain_append (left right : List Expression) :
    evaluateChain environment connective (left ++ right) =
      evaluateChain environment connective left >>= fun truth =>
        if truth = connective.decisive then pure truth
        else evaluateChain environment connective right := by
  induction left with
  | nil =>
      have undecided : (!connective.decisive) ≠ connective.decisive := by
        cases connective <;> decide
      rw [evaluateChain]
      exact (if_neg undecided).symm
  | cons first rest inductionHypothesis =>
      simp only [List.cons_append, evaluateChain, inductionHypothesis, bind_assoc]
      congr 1
      funext value
      congr 1
      funext truth
      by_cases decided : truth = connective.decisive
      · simp only [if_pos decided, pure_bind]
      · simp only [if_neg decided]

/-- A chain among the operands of its own connective settles the whole when it is decisive. -/
theorem evaluateChain_cons_chain (inner rest : List Expression) :
    evaluateChain environment connective (.logical connective inner :: rest) =
      evaluateChain environment connective inner >>= fun truth =>
        if truth = connective.decisive then pure truth
        else evaluateChain environment connective rest := by
  rw [evaluateChain, evaluate, bind_assoc]
  rfl

namespace Groups

variable {parts operands : List Expression}

theorem checkOperands_eq (groups : Groups connective parts operands) :
    checkOperands slots connective parts = checkOperands slots connective operands := by
  induction groups with
  | ended => rfl
  | operand first behind inductionHypothesis =>
      rw [checkOperands, checkOperands, inductionHypothesis]
  | chain within behind withinHypothesis behindHypothesis =>
      rw [checkOperands_cons_chain, checkOperands_append, withinHypothesis, behindHypothesis]

theorem evaluateChain_eq (groups : Groups connective parts operands) :
    evaluateChain environment connective parts = evaluateChain environment connective operands := by
  induction groups with
  | ended => rfl
  | operand first behind inductionHypothesis =>
      rw [evaluateChain, evaluateChain, inductionHypothesis]
  | chain within behind withinHypothesis behindHypothesis =>
      rw [evaluateChain_cons_chain, evaluateChain_append, withinHypothesis, behindHypothesis]

end Groups

end Chains

/-- However the operands of a chain are grouped into chains of its connective, the whole has the same
kind as the flat chain or fails the check with the same error, and it has the same value or fails with
the same error. -/
theorem grouped_chain {connective : Connective} {parts operands : List Expression}
    (groups : Groups connective parts operands) :
    (∀ slots, (Expression.logical connective parts).check slots =
      (Expression.logical connective operands).check slots) ∧
    ∀ environment, (Expression.logical connective parts).evaluate environment =
      (Expression.logical connective operands).evaluate environment := by
  constructor
  · intro slots
    rw [check, check, groups.checkOperands_eq]
  · intro environment
    rw [evaluate, evaluate, groups.evaluateChain_eq]

/-- The number behind the true operand is met first in both chains, and the null behind it by
neither. -/
theorem grouped_chain_failing :
    let number := Expression.literal (.integer 1)
    let nested : Expression :=
      .logical .and [.identifier "a", .logical .and [.logical .and [number, .literal .null], number]]
    let flat : Expression := .logical .and [.identifier "a", number, .literal .null, number]
    let environment : String → Option Value := fun _ => some (.bool true)
    nested.check [⟨"a", .bool⟩] = flat.check [⟨"a", .bool⟩] ∧
      flat.check [⟨"a", .bool⟩] = .error (.operandNotCondition (.chain .and) .int) ∧
      nested.evaluate environment = flat.evaluate environment ∧
      flat.evaluate environment = .error (.operandNotBoolean (.chain .and) .int) := by
  intro number nested flat environment
  have groups : Groups .and
      [.identifier "a", .logical .and [.logical .and [number, .literal .null], number]]
      [.identifier "a", number, .literal .null, number] :=
    .operand _ (.chain (.chain (.operand _ (.operand _ .ended)) (.operand _ .ended)) .ended)
  obtain ⟨checked, evaluated⟩ := grouped_chain groups
  exact ⟨checked _, rfl, evaluated _, rfl⟩

end Predicates.Expression
