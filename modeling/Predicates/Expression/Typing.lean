/-
This file checks an expression against the declared kinds of its parameters.
-/

import Predicates.Expression.Identifiers

namespace Predicates

/-- A slot declares one parameter. -/
structure Slot where
  name : String
  kind : Kind
  deriving DecidableEq

/-- The logical operators take conditions only. -/
inductive LogicalOperator where
  | chain (connective : Connective)
  | not
  deriving DecidableEq

def LogicalOperator.symbol : LogicalOperator → String
  | .chain connective => connective.symbol
  | .not => UnaryOperator.not.symbol

inductive TypingError where
  | unresolved (name : String)
  | operandNotCondition (operator : LogicalOperator) (kind : Kind)
  | resultNotCondition (kind : Kind)
  | operandNotNumeric (kind : Kind)
  deriving DecidableEq

def TypingError.message : TypingError → String
  | .unresolved name => s!"Unknown identifier '{name}'"
  | .operandNotCondition operator kind =>
    s!"Operator '{operator.symbol}' requires boolean operands, got {kind.name}"
  | .resultNotCondition kind => s!"Expression must evaluate to bool, got {kind.name}"
  | .operandNotNumeric kind =>
    s!"Operator '{UnaryOperator.minus.symbol}' requires a numeric operand, got {kind.name}"

/-- Where a name stands in several slots, the last one is meant. -/
def Slot.position? (name : String) : List Slot → Option Nat
  | [] => none
  | slot :: rest =>
    match Slot.position? name rest with
    | some position => some (position + 1)
    | none => if slot.name = name then some 0 else none

def Slot.kindOf? (slots : List Slot) (name : String) : Option Kind :=
  (Slot.position? name slots).bind fun position => slots[position]?.map Slot.kind

def requireCondition (operator : LogicalOperator) (kind : Kind) : Except TypingError Unit :=
  if kind.isCondition then .ok () else .error (.operandNotCondition operator kind)

/-- Only numbers can be negated, and an object may turn out to be one. -/
def negationKind (kind : Kind) : Except TypingError Kind :=
  if kind.isNumeric || kind = .object then .ok kind else .error (.operandNotNumeric kind)

namespace Expression

mutual

/-- The kind of an expression follows from the kinds of its parts. Comparisons take operands of
any kinds. -/
def check (slots : List Slot) : Expression → Except TypingError Kind
  | .literal value => .ok value.value.kind
  | .identifier name =>
    match Slot.kindOf? slots name with
    | some kind => .ok kind
    | none => .error (.unresolved name)
  | .comparison _ left right => do
    let _ ← check slots left
    let _ ← check slots right
    return .bool
  | .logical connective operands => do
    checkOperands slots connective operands
    return .bool
  | .unary .not operand => do
    let kind ← check slots operand
    requireCondition .not kind
    return .bool
  | .unary .minus operand => do
    let kind ← check slots operand
    negationKind kind

def checkOperands (slots : List Slot) (connective : Connective) :
    List Expression → Except TypingError Unit
  | [] => .ok ()
  | operand :: rest => do
    let kind ← check slots operand
    requireCondition (.chain connective) kind
    checkOperands slots connective rest

end

end Expression

end Predicates
