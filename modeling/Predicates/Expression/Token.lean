/-
This file holds the tokens of an expression and the places where they stand.
-/

import Predicates.Expression.Literal
import Predicates.Expression.Operator

namespace Predicates

/-- Positions count characters from zero, and lines and columns count from one. -/
structure Location where
  position : Nat
  line : Nat
  column : Nat
  deriving DecidableEq

namespace Location

def start : Location :=
  ⟨0, 1, 1⟩

/-- Only the line feed starts a new line. -/
def after (location : Location) (character : Char) : Location :=
  if character = '\n' then ⟨location.position + 1, location.line + 1, 1⟩
  else ⟨location.position + 1, location.line, location.column + 1⟩

def advance (location : Location) (characters : List Char) : Location :=
  characters.foldl after location

end Location

/-- Logical operators can be written as symbols or as words. -/
inductive Spelling where
  | symbol
  | word
  deriving DecidableEq

/-- The form of a token is all that the grammar sees of it. -/
inductive TokenForm where
  | literal (value : Literal)
  | identifier (name : String)
  | comparison (operator : Comparison)
  | connective (operation : Connective) (spelling : Spelling)
  | not (spelling : Spelling)
  | minus
  | opening
  | closing
  | stop
  deriving DecidableEq

namespace TokenForm

def literalTypeName : Literal → String
  | .null => "NULL"
  | .bool _ => "BOOLEAN"
  | .integer _ => "NUMBER"
  | .binary _ => "NUMBER"
  | .string _ => "STRING"

def comparisonTypeName : Comparison → String
  | .equal => "EQ"
  | .notEqual => "NEQ"
  | .below => "LT"
  | .atMost => "LTE"
  | .above => "GT"
  | .atLeast => "GTE"

def typeName : TokenForm → String
  | .literal value => literalTypeName value
  | .identifier _ => "IDENTIFIER"
  | .comparison operator => comparisonTypeName operator
  | .connective .and _ => "AND"
  | .connective .or _ => "OR"
  | .not _ => "NOT"
  | .minus => "MINUS"
  | .opening => "LPAREN"
  | .closing => "RPAREN"
  | .stop => "EOF"

/-- A token that is not a literal has its spelling as its value, and the stop has none. -/
def spelledLiteral : TokenForm → Literal
  | .literal value => value
  | .identifier name => .string name
  | .comparison operator => .string operator.symbol
  | .connective operation .symbol => .string operation.symbol
  | .connective operation .word => .string operation.word
  | .not .symbol => .string "!"
  | .not .word => .string "not"
  | .minus => .string "-"
  | .opening => .string "("
  | .closing => .string ")"
  | .stop => .null

def text (form : TokenForm) : String :=
  form.spelledLiteral.text

end TokenForm

structure Token where
  form : TokenForm
  location : Location
  deriving DecidableEq

/-- This text shows a token in listings. -/
def Token.display (token : Token) : String :=
  s!"Token({token.form.typeName}, {token.form.spelledLiteral.quotedText}, " ++
    s!"pos={token.location.position})"

end Predicates
