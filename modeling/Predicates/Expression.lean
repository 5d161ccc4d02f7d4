/-
This file holds the trees of boolean expressions.
-/

import Predicates.Expression.Literal
import Predicates.Expression.Operator

namespace Predicates

/-- A run of one connective is a single node with all its operands in order. -/
inductive Expression where
  | literal (value : Literal)
  | identifier (name : String)
  | comparison (operator : Comparison) (left right : Expression)
  | logical (connective : Connective) (operands : List Expression)
  | unary (operator : UnaryOperator) (operand : Expression)

namespace Expression

/-- A single operand stands for itself. -/
def chain (connective : Connective) : List Expression → Expression
  | [operand] => operand
  | operands => .logical connective operands

end Expression

end Predicates
