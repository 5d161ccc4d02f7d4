/-
This file computes the values of expressions.
-/

import Predicates.Value.Comparison
import Predicates.Expression.Typing

namespace Predicates

inductive EvaluationError where
  | unbound (name : String)
  | operandNotBoolean (operator : LogicalOperator) (kind : Kind)
  | resultNotBoolean (kind : Kind)
  | operandNotNumeric (kind : Kind)
  | decimal (signal : DecimalSignal)
  deriving DecidableEq

/-- An unbound name is reported by the name alone, and decimal signals have no words. -/
def EvaluationError.message? : EvaluationError → Option String
  | .unbound name => some name
  | .operandNotBoolean operator kind =>
    some s!"Operator '{operator.symbol}' requires a boolean operand, got {kind.name}"
  | .resultNotBoolean kind => some s!"Expression produced {kind.name}, expected bool"
  | .operandNotNumeric kind => some s!"Cannot negate non-numeric value of type {kind.name}"
  | .decimal _ => none

/-- Values without an order are neither below nor above each other. -/
def Comparison.holds (operator : Comparison) (left right : Value) :
    Except DecimalSignal Bool :=
  let ordered := fun (accepts : Ordering → Bool) =>
    (left.compare right).map fun order => order.any accepts
  match operator with
  | .equal => left.equals right
  | .notEqual => (left.equals right).map not
  | .below => ordered Ordering.isLT
  | .atMost => ordered Ordering.isLE
  | .above => ordered Ordering.isGT
  | .atLeast => ordered Ordering.isGE

/-- The negation of an absent value is absent. -/
def Value.negate : Value → Except EvaluationError Value
  | .null => .ok .null
  | .number value => (value.negate.map .number).mapError .decimal
  | value => .error (.operandNotNumeric value.kind)

def Value.condition (operator : LogicalOperator) : Value → Except EvaluationError Bool
  | .bool value => .ok value
  | value => .error (.operandNotBoolean operator value.kind)

namespace Expression

mutual

/-- Names take their values from the environment. -/
def evaluate (environment : String → Option Value) : Expression → Except EvaluationError Value
  | .literal value => .ok value.value
  | .identifier name =>
    match environment name with
    | some value => .ok value
    | none => .error (.unbound name)
  | .comparison operator left right => do
    let leftValue ← evaluate environment left
    let rightValue ← evaluate environment right
    ((operator.holds leftValue rightValue).map .bool).mapError .decimal
  | .logical connective operands => do
    let truth ← evaluateChain environment connective operands
    return .bool truth
  | .unary .not operand => do
    let value ← evaluate environment operand
    let truth ← value.condition .not
    return .bool (!truth)
  | .unary .minus operand => do
    let value ← evaluate environment operand
    value.negate

/-- The operands behind a decisive one are not looked at. -/
def evaluateChain (environment : String → Option Value) (connective : Connective) :
    List Expression → Except EvaluationError Bool
  | [] => .ok (!connective.decisive)
  | operand :: rest => do
    let value ← evaluate environment operand
    let truth ← value.condition (.chain connective)
    if truth = connective.decisive then return truth
    else evaluateChain environment connective rest

end

end Expression

/-- A whole expression yields a truth value, and an absent value counts as false. -/
def Value.truth : Value → Except EvaluationError Bool
  | .null => .ok false
  | .bool value => .ok value
  | value => .error (.resultNotBoolean value.kind)

end Predicates
