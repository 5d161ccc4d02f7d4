/-
This file builds the tree of an expression from its tokens.
-/

import Predicates.Expression.Cursor
import Predicates.Expression.Traversal

namespace Predicates

/-- Parentheses and unary operators may be nested this deep, and trees may be this high. -/
def nestingLimit : Nat := 50

inductive ParseFailure where
  | emptyExpression
  | unexpectedToken
  | unexpectedEnd
  | missingClosing
  | nestedTooDeeply
  deriving DecidableEq

/-- A parse error points at the token that could not be used. -/
structure ParseError where
  failure : ParseFailure
  token : Token
  deriving DecidableEq

def ParseError.message (error : ParseError) : String :=
  let subject :=
    match error.failure with
    | .emptyExpression => "Empty expression"
    | .unexpectedToken => s!"Unexpected token '{error.token.form.text}'"
    | .unexpectedEnd => "Unexpected end of expression"
    | .missingClosing => "Expected ')' after expression"
    | .nestedTooDeeply => "Expression nested too deeply"
  s!"{subject} at position {error.token.location.position}"

namespace Parser

/-- A reading is a tree and the tokens behind it. -/
abbrev Reading := Expression × List Token

/-- A step reads a tree from the front of the tokens and uses at least one of them. -/
structure Step where
  run : List Token → Except ParseError Reading
  shorter : ∀ tokens reading, run tokens = .ok reading → reading.2.length < tokens.length

def connectiveOf? : TokenForm → Option Connective
  | .connective operation _ => some operation
  | _ => none

def comparisonOf? : TokenForm → Option Comparison
  | .comparison operator => some operator
  | _ => none

/-- The operands that follow a first one are each announced by the connective. -/
def moreOperands (connective : Connective) (operand : Step) (tokens : List Token) :
    Except ParseError (List Expression × List Token) :=
  match tokens with
  | [] => .ok ([], [])
  | token :: rest =>
    if connectiveOf? token.form = some connective then
      match _ : operand.run rest with
      | .error error => .error error
      | .ok next =>
        (moreOperands connective operand next.2).map fun others => (next.1 :: others.1, others.2)
    else .ok ([], token :: rest)
termination_by tokens.length
decreasing_by
  have := operand.shorter _ _ ‹_›
  simp only [List.length_cons]
  omega

theorem moreOperands_length_le {connective : Connective} {operand : Step} {tokens : List Token}
    {others : List Expression × List Token}
    (found : moreOperands connective operand tokens = .ok others) :
    others.2.length ≤ tokens.length := by
  fun_induction moreOperands connective operand tokens generalizing others with
  | case1 =>
    cases found
    exact Nat.le_refl _
  | case2 => simp at found
  | case3 token rest _ next foundNext inductionHypothesis =>
    cases tail : moreOperands connective operand next.2 with
    | error error => simp [tail, Except.map] at found
    | ok later =>
      simp only [tail, Except.map, Except.ok.injEq] at found
      have := inductionHypothesis tail
      have := operand.shorter _ _ foundNext
      simp only [← found, List.length_cons]
      omega
  | case4 =>
    cases found
    exact Nat.le_refl _

def runChain (connective : Connective) (operand : Step) (tokens : List Token) :
    Except ParseError Reading := do
  let first ← operand.run tokens
  let others ← moreOperands connective operand first.2
  return (Expression.chain connective (first.1 :: others.1), others.2)

/-- A chain of one operand is the operand itself. -/
def chain (connective : Connective) (operand : Step) : Step where
  run := runChain connective operand
  shorter tokens reading found := by
    simp only [runChain, bind, Except.bind] at found
    split at found
    · simp at found
    · rename_i first foundFirst
      split at found
      · simp at found
      · rename_i others foundOthers
        cases found
        have := operand.shorter _ _ foundFirst
        have := moreOperands_length_le foundOthers
        show others.2.length < tokens.length
        omega

/-- A row of comparisons associates to the left. -/
def moreComparisons (operand : Step) (left : Expression) (tokens : List Token) :
    Except ParseError Reading :=
  match tokens with
  | [] => .ok (left, [])
  | token :: rest =>
    match comparisonOf? token.form with
    | none => .ok (left, token :: rest)
    | some operator =>
      match _ : operand.run rest with
      | .error error => .error error
      | .ok right => moreComparisons operand (.comparison operator left right.1) right.2
termination_by tokens.length
decreasing_by
  have := operand.shorter _ _ ‹_›
  simp only [List.length_cons]
  omega

theorem moreComparisons_length_le {operand : Step} {left : Expression} {tokens : List Token}
    {reading : Reading} (found : moreComparisons operand left tokens = .ok reading) :
    reading.2.length ≤ tokens.length := by
  fun_induction moreComparisons operand left tokens with
  | case1 =>
    cases found
    exact Nat.le_refl _
  | case2 =>
    cases found
    exact Nat.le_refl _
  | case3 => simp at found
  | case4 left token rest operator _ right foundRight inductionHypothesis =>
    have := inductionHypothesis found
    have := operand.shorter _ _ foundRight
    simp only [List.length_cons]
    omega

def runComparisons (operand : Step) (tokens : List Token) : Except ParseError Reading := do
  let left ← operand.run tokens
  moreComparisons operand left.1 left.2

def comparisons (operand : Step) : Step where
  run := runComparisons operand
  shorter tokens reading found := by
    simp only [runComparisons, bind, Except.bind] at found
    split at found
    · simp at found
    · rename_i left foundLeft
      have := operand.shorter _ _ foundLeft
      have := moreComparisons_length_le found
      omega

/-- Conjunctions bind tighter than disjunctions, and comparisons bind tighter than both. -/
def expression (operand : Step) : Step :=
  chain .or (chain .and (comparisons operand))

/-- Nothing can be nested when no room is left, whatever token comes next. -/
def tooDeep (stop : Token) : Step where
  run tokens := .error ⟨.nestedTooDeeply, tokens.headD stop⟩
  shorter _ _ found := by simp at found

def closeParenthesis (stop : Token) (inner : Reading) : Except ParseError Reading :=
  match inner.2 with
  | [] => .error ⟨.missingClosing, stop⟩
  | token :: rest =>
    if token.form = .closing then .ok (inner.1, rest) else .error ⟨.missingClosing, token⟩

theorem closeParenthesis_shorter {stop : Token} {inner reading : Reading}
    (found : closeParenthesis stop inner = .ok reading) :
    reading.2.length < inner.2.length := by
  unfold closeParenthesis at found
  split at found
  · simp at found
  · rename_i token rest same
    split at found
    · cases found
      simp [same]
    · simp at found

/-- An operand starts with one token that decides its form, and nested steps read what that
token opens. -/
def runOperand (stop : Token) (nestedOperand nestedExpression : Step) (tokens : List Token) :
    Except ParseError Reading :=
  match tokens with
  | [] => .error ⟨.unexpectedEnd, stop⟩
  | token :: rest =>
    match token.form with
    | .literal value => .ok (.literal value, rest)
    | .identifier name => .ok (.identifier name, rest)
    | .not _ => (nestedOperand.run rest).map fun inner => (.unary .not inner.1, inner.2)
    | .minus => (nestedOperand.run rest).map fun inner => (.unary .minus inner.1, inner.2)
    | .opening => (nestedExpression.run rest).bind (closeParenthesis stop)
    | .stop => .error ⟨.unexpectedEnd, token⟩
    | _ => .error ⟨.unexpectedToken, token⟩

def operandWith (stop : Token) (nestedOperand nestedExpression : Step) : Step where
  run := runOperand stop nestedOperand nestedExpression
  shorter tokens reading found := by
    cases tokens with
    | nil => simp [runOperand] at found
    | cons token rest =>
      simp only [runOperand] at found
      split at found
      · cases found
        simp
      · cases found
        simp
      · cases inner : nestedOperand.run rest with
        | error error => simp [inner, Except.map] at found
        | ok reading =>
          simp only [inner, Except.map, Except.ok.injEq] at found
          have := nestedOperand.shorter _ _ inner
          simp only [← found, List.length_cons]
          omega
      · cases inner : nestedOperand.run rest with
        | error error => simp [inner, Except.map] at found
        | ok reading =>
          simp only [inner, Except.map, Except.ok.injEq] at found
          have := nestedOperand.shorter _ _ inner
          simp only [← found, List.length_cons]
          omega
      · cases inner : nestedExpression.run rest with
        | error error => simp [inner, Except.bind] at found
        | ok reading =>
          simp only [inner, Except.bind] at found
          have := nestedExpression.shorter _ _ inner
          have := closeParenthesis_shorter found
          simp only [List.length_cons]
          omega
      · simp at found
      · simp at found

/-- These operands may hold the given ones one level further down. -/
def operandAround (stop : Token) (inner : Step) : Step :=
  operandWith stop inner (expression inner)

/-- The room counts the parentheses and unary operators that may still be opened. -/
def operand (stop : Token) : Nat → Step
  | 0 => operandWith stop (tooDeep stop) (tooDeep stop)
  | room + 1 => operandAround stop (operand stop room)

def expressionAt (stop : Token) (room : Nat) : Step :=
  expression (operand stop room)

end Parser

/-- The whole stream must be used, and the finished tree must not be too high. -/
def TokenStream.parse (stream : TokenStream) : Except ParseError Expression :=
  match stream.body with
  | [] => .error ⟨.emptyExpression, stream.stop⟩
  | first :: _ => do
    let reading ← (Parser.expressionAt stream.stop nestingLimit).run stream.body
    match reading.2 with
    | token :: _ => .error ⟨.unexpectedToken, token⟩
    | [] =>
      if reading.1.isDeeperThan nestingLimit then .error ⟨.nestedTooDeeply, first⟩
      else .ok reading.1

/-- A text is not an expression when its tokens cannot be read or do not fit the grammar. -/
inductive SourceError where
  | scan (error : ScanError)
  | parse (error : ParseError)
  deriving DecidableEq

namespace SourceError

def message : SourceError → String
  | .scan error => error.message
  | .parse error => error.message

/-- An integer with too many digits is well formed, although it cannot be read. -/
def isMalformed : SourceError → Bool
  | .scan (.tooManyDigits _) => false
  | _ => true

end SourceError

def parse (text : String) : Except SourceError Expression :=
  match tokenize text with
  | .error error => .error (.scan error)
  | .ok stream => stream.parse.mapError .parse

end Predicates
