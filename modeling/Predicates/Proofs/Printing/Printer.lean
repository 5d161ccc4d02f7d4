/-
This file writes expressions with as few parentheses as the grammar allows.
-/

import Predicates.Expression
import Predicates.Expression.Token

namespace Predicates

/-- Each form of expression binds tighter than the ones before it. -/
inductive Binding where
  | disjunction
  | conjunction
  | comparison
  | sign
  | leaf
  deriving DecidableEq

namespace Binding

def rank : Binding → Nat
  | .disjunction => 0
  | .conjunction => 1
  | .comparison => 2
  | .sign => 3
  | .leaf => 4

def ofConnective : Connective → Binding
  | .or => .disjunction
  | .and => .conjunction

/-- An operand of a chain binds tighter than the chain, so a chain of the same connective needs
parentheses too. -/
def ofOperand : Connective → Binding
  | .or => .conjunction
  | .and => .comparison

end Binding

def Expression.binding : Expression → Binding
  | .literal _ => .leaf
  | .identifier _ => .leaf
  | .comparison .. => .comparison
  | .logical connective _ => .ofConnective connective
  | .unary .. => .sign

/-- Parentheses stand only around a tree that binds less tightly than its place needs. -/
def bracketed (needed : Binding) (tree : Expression) (forms : List TokenForm) : List TokenForm :=
  if tree.binding.rank < needed.rank then .opening :: (forms ++ [.closing]) else forms

def UnaryOperator.form : UnaryOperator → TokenForm
  | .not => .not .symbol
  | .minus => .minus

namespace Expression

mutual

/-- A row of comparisons needs no parentheses on its left side. -/
def forms : Expression → List TokenForm
  | .literal value => [.literal value]
  | .identifier name => [.identifier name]
  | .comparison operator left right =>
    bracketed .comparison left left.forms ++
      .comparison operator :: bracketed .sign right right.forms
  | .logical connective operands => chainForms connective operands
  | .unary operator operand => operator.form :: bracketed .sign operand operand.forms

def chainForms (connective : Connective) : List Expression → List TokenForm
  | [] => []
  | [operand] => bracketed (.ofOperand connective) operand operand.forms
  | operand :: rest =>
    bracketed (.ofOperand connective) operand operand.forms ++
      .connective connective .symbol :: chainForms connective rest

end

end Expression

/-- Inside quotation marks, only the closing mark and the escape mark need an escape. -/
def escapeInQuotes (character : Char) : List Char :=
  if character = Quoted.doubleMark || character = Quoted.escapeMark then
    [Quoted.escapeMark, character]
  else [character]

/-- A notation is written without an exponent, so that it has digits on both sides of its point. -/
def notationText (coefficient : Nat) (exponent : Int) : List Char :=
  let digits := Nat.toDigits 10 coefficient
  Binary64.positionalText digits (digits.length + exponent)

/-- Infinity is written as a power of ten that is past every finite number. -/
def Binary64.spelled : Binary64 → List Char
  | .nan _ => []
  | .infinity _ => notationText 1 309
  | .finite _ magnitude =>
    notationText (shortestNotation magnitude).1 (shortestNotation magnitude).2

def Literal.spelled : Literal → List Char
  | .null => ['n', 'u', 'l', 'l']
  | .bool true => ['t', 'r', 'u', 'e']
  | .bool false => ['f', 'a', 'l', 's', 'e']
  | .integer value => Nat.toDigits 10 value
  | .binary value => value.spelled
  | .string text =>
    Quoted.doubleMark :: text.toList.flatMap escapeInQuotes ++ [Quoted.doubleMark]

namespace TokenForm

/-- The stop stands for the end of the text, so it is not written. -/
def spelled : TokenForm → List Char
  | .literal value => value.spelled
  | .identifier name => name.toList
  | .comparison operator => operator.symbol.toList
  | .connective operation .symbol => operation.symbol.toList
  | .connective operation .word => operation.word.toList
  | .not .symbol => ['!']
  | .not .word => ['n', 'o', 't']
  | .minus => ['-']
  | .opening => ['(']
  | .closing => [')']
  | .stop => []

end TokenForm

/-- A space stands before each token. -/
def spacedBefore (forms : List TokenForm) : List Char :=
  forms.flatMap fun form => ' ' :: form.spelled

/-- A space stands between any two tokens. -/
def spaced : List TokenForm → List Char
  | [] => []
  | first :: rest => first.spelled ++ spacedBefore rest

def Expression.print (tree : Expression) : String :=
  String.ofList (spaced tree.forms)

end Predicates
