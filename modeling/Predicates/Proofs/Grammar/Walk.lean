/-
This file holds a reader of expressions that keeps all tokens of a stream and moves a position over them.
It is defined without any measure, so it does not say by itself that it ends.
-/

import Predicates.Expression.Parser

namespace Predicates

/-- A place is a position in the tokens together with the depth of nesting. The trail holds every
position that was looked at or moved to, the last one first. -/
structure Place where
  position : Nat
  depth : Nat
  trail : List Nat

theorem TokenStream.min_lt_length (stream : TokenStream) (position : Nat) :
    min position stream.body.length < stream.toList.length := by
  rw [toList, List.length_append]
  exact Nat.lt_succ_of_le (Nat.min_le_right _ _)

/-- Behind the last position the stop is found again. -/
def TokenStream.tokenAt (stream : TokenStream) (position : Nat) : Token :=
  stream.toList.get ⟨min position stream.body.length, stream.min_lt_length position⟩

/-- A walk starts at a place. It has no outcome if it never ends, and otherwise it ends at a place with
an answer or an error. -/
abbrev Walk (A : Type) := ExceptT ParseError (StateT Place Option) A

def Place.noted (place : Place) : Place :=
  { place with trail := place.position :: place.trail }

def Place.moved (place : Place) : Place :=
  { place with position := place.position + 1 }

def Place.entered (place : Place) : Place :=
  { place with depth := place.depth + 1 }

def Place.returned (place : Place) : Place :=
  { place with depth := place.depth - 1 }

/-- A sign stands before its operand. -/
def TokenForm.sign? : TokenForm → Option UnaryOperator
  | .not _ => some .not
  | .minus => some .minus
  | _ => none

namespace Walk

variable {A B : Type}

def look (stream : TokenStream) : Walk Token := do
  let place ← get
  set place.noted
  return stream.tokenAt place.position

def advance (stream : TokenStream) : Walk Token := do
  let token ← look stream
  modify fun place => place.moved.noted
  return token

def refuse (failure : ParseFailure) (token : Token) : Walk A :=
  throw ⟨failure, token⟩

/-- The depth is counted only while the inner walk goes on. -/
@[reducible] def nested (stream : TokenStream) (inner : Walk Expression) : Walk Expression := do
  let place ← get
  if nestingLimit ≤ place.depth then
    let token ← look stream
    refuse .nestedTooDeeply token
  else
    set place.entered
    let tree ← inner
    modify Place.returned
    return tree

def close (stream : TokenStream) (inner : Expression) : Walk Expression := do
  let token ← look stream
  if token.form = .closing then
    let _ ← advance stream
    return inner
  else
    refuse .missingClosing token

end Walk

namespace TokenStream

open Walk

mutual

def chain (stream : TokenStream) (connective : Connective) : Walk Expression := do
  let first ← stream |>.operand connective
  stream |>.operands connective [first]
partial_fixpoint

/-- Disjunctions join conjunctions, and conjunctions join comparisons. -/
def operand (stream : TokenStream) (connective : Connective) : Walk Expression :=
  match connective with
  | .or => stream |>.chain .and
  | .and => stream |>.comparison
partial_fixpoint

/-- This loop adds operands to those found as long as the connective comes next. -/
def operands (stream : TokenStream) (connective : Connective) (found : List Expression) :
    Walk Expression := do
  let token ← look stream
  if Parser.connectiveOf? token.form = some connective then
    let _ ← advance stream
    let next ← stream |>.operand connective
    stream |>.operands connective (found ++ [next])
  else
    return Expression.chain connective found
partial_fixpoint

def comparison (stream : TokenStream) : Walk Expression := do
  let left ← stream |>.unary
  stream |>.comparisons left
partial_fixpoint

/-- This loop compares the left side further as long as a comparison comes next. -/
def comparisons (stream : TokenStream) (left : Expression) : Walk Expression := do
  let token ← look stream
  match Parser.comparisonOf? token.form with
  | none => return left
  | some operator =>
    let _ ← advance stream
    let right ← stream |>.unary
    stream |>.comparisons (.comparison operator left right)
partial_fixpoint

def unary (stream : TokenStream) : Walk Expression := do
  let token ← look stream
  match token.form.sign? with
  | none => stream |>.primary
  | some operator =>
    let _ ← advance stream
    let inner ← nested stream (stream |>.unary)
    return .unary operator inner
partial_fixpoint

def primary (stream : TokenStream) : Walk Expression := do
  let token ← look stream
  match token.form with
  | .literal value =>
    let _ ← advance stream
    return .literal value
  | .identifier name =>
    let _ ← advance stream
    return .identifier name
  | .opening =>
    let _ ← advance stream
    let inner ← nested stream (stream |>.chain .or)
    close stream inner
  | .stop => refuse .unexpectedEnd token
  | _ => refuse .unexpectedToken token
partial_fixpoint

end

/-- The whole walk must come to the stop with a tree that is not too high. -/
def sentence (stream : TokenStream) : Walk Expression := do
  if (stream.tokenAt 0).form = .stop then
    refuse .emptyExpression (stream.tokenAt 0)
  else
    let tree ← stream.chain .or
    let token ← look stream
    if token.form ≠ .stop then
      refuse .unexpectedToken token
    else if tree.isDeeperThan nestingLimit then
      refuse .nestedTooDeeply (stream.tokenAt 0)
    else
      return tree

end TokenStream

namespace Walk

variable {A B : Type}

/-- From the first place the walk ends at the second one. -/
def Ends (walk : Walk A) (start : Place) (answer : Except ParseError A) (finish : Place) : Prop :=
  walk start = some (answer, finish)

section Steps

variable {stream : TokenStream} {walk : Walk A} {next : A → Walk B} {start middle finish : Place}
  {value : A} {error : ParseError} {answer : Except ParseError B} {inner : Walk Expression}

theorem ends_pure (value : A) (place : Place) : Ends (pure value) place (.ok value) place :=
  rfl

theorem Ends.bind (first : Ends walk start (.ok value) middle)
    (second : Ends (next value) middle answer finish) : Ends (walk >>= next) start answer finish := by
  unfold Ends at first
  change (walk start >>= _) = _
  rw [first]
  exact second

theorem Ends.bind_error (first : Ends walk start (.error error) finish) :
    Ends (walk >>= next) start (.error error) finish := by
  unfold Ends at first
  change (walk start >>= _) = _
  rw [first]
  rfl

theorem ends_look (stream : TokenStream) (place : Place) :
    Ends (look stream) place (.ok (stream.tokenAt place.position)) place.noted :=
  rfl

theorem ends_advance (stream : TokenStream) (place : Place) :
    Ends (advance stream) place (.ok (stream.tokenAt place.position)) place.noted.moved.noted :=
  rfl

theorem ends_refuse (failure : ParseFailure) (token : Token) (place : Place) :
    Ends (refuse failure token : Walk A) place (.error ⟨failure, token⟩) place :=
  rfl

theorem ends_nested_full (full : nestingLimit ≤ start.depth) :
    Ends (nested stream inner) start (.error ⟨.nestedTooDeeply, stream.tokenAt start.position⟩)
      start.noted := by
  change (if nestingLimit ≤ start.depth then _ else _ : Walk Expression) start = _
  rw [if_pos full]
  rfl

theorem nested_of_below (below : start.depth < nestingLimit) :
    nested stream inner start =
      (do let tree ← inner; modify Place.returned; return tree : Walk Expression) start.entered := by
  change (if nestingLimit ≤ start.depth then _ else _ : Walk Expression) start = _
  rw [if_neg (Nat.not_le_of_lt below)]
  rfl

theorem Ends.nested {tree : Expression} (below : start.depth < nestingLimit)
    (ends : Ends inner start.entered (.ok tree) finish) :
    Ends (Walk.nested stream inner) start (.ok tree) finish.returned := by
  unfold Ends
  rw [nested_of_below below]
  exact ends.bind rfl

/-- The depth is not counted back when the inner walk fails. -/
theorem Ends.nested_error (below : start.depth < nestingLimit)
    (ends : Ends inner start.entered (.error error) finish) :
    Ends (Walk.nested stream inner) start (.error error) finish := by
  unfold Ends
  rw [nested_of_below below]
  exact ends.bind_error

end Steps

end Walk

end Predicates
