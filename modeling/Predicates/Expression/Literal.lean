/-
This file holds the constants that an expression can write.
-/

import Predicates.Value
import Predicates.Text.Quoted

namespace Predicates

/-- A literal has no sign, because the minus sign is an operator of its own. -/
inductive Literal where
  | null
  | bool (value : Bool)
  | integer (value : Nat)
  | binary (value : Binary64)
  | string (text : String)
  deriving DecidableEq

namespace Literal

def value : Literal → Value
  | .null => .null
  | .bool value => .bool value
  | .integer value => .number (.integer value)
  | .binary value => .number (.binary value)
  | .string text => .string text

def boolText (value : Bool) : String :=
  if value then "True" else "False"

/-- The plain text of a literal is what messages show of it. -/
def text : Literal → String
  | .null => "None"
  | .bool value => boolText value
  | .integer value => toString value
  | .binary value => value.text
  | .string text => text

/-- The quoted text differs from the plain one only for strings. -/
def quotedText : Literal → String
  | .string text => quoted text
  | literal => literal.text

end Literal

end Predicates
