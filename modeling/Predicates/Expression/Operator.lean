/-
This file holds the operators of expressions and their symbols.
-/

namespace Predicates

inductive Comparison where
  | equal
  | notEqual
  | below
  | atMost
  | above
  | atLeast
  deriving DecidableEq

def Comparison.symbol : Comparison → String
  | .equal => "=="
  | .notEqual => "!="
  | .below => "<"
  | .atMost => "<="
  | .above => ">"
  | .atLeast => ">="

/-- A connective joins any number of operands. -/
inductive Connective where
  | and
  | or
  deriving DecidableEq

namespace Connective

def symbol : Connective → String
  | .and => "&&"
  | .or => "||"

def word : Connective → String
  | .and => "and"
  | .or => "or"

/-- One operand with the decisive truth value settles the whole chain. -/
def decisive : Connective → Bool
  | .and => false
  | .or => true

end Connective

inductive UnaryOperator where
  | not
  | minus
  deriving DecidableEq

def UnaryOperator.symbol : UnaryOperator → String
  | .not => "!"
  | .minus => "-"

end Predicates
