/-
This file holds equality and order between values.
-/

import Predicates.Value

namespace Predicates.Value

/-- A boolean inside an object counts as the number one or zero. -/
def memberNumber? : Value → Option Number
  | .bool value => some (.integer (if value then 1 else 0))
  | .number value => some value
  | _ => none

def sameNumber (left right : Value) : Except DecimalSignal Bool :=
  match left.memberNumber?, right.memberNumber? with
  | some leftNumber, some rightNumber => leftNumber.sameValue rightNumber
  | _, _ => .ok false

mutual

/-- Members of objects are the same when their numbers, texts or own members are. Lists and mappings
of different lengths differ whatever they hold. -/
def sameMember : Value → Value → Except DecimalSignal Bool
  | .null, .null => .ok true
  | .string left, .string right => .ok (left = right)
  | .list left, .list right =>
    if left.length = right.length then sameMembers left right else .ok false
  | .dict left, .dict right =>
    if left.length = right.length then sameEntries left right else .ok false
  | left, right => sameNumber left right

/-- The members are compared in order, up to the first pair that differs or is refused. -/
def sameMembers : List Value → List Value → Except DecimalSignal Bool
  | left :: leftRest, right :: rightRest =>
    match sameMember left right with
    | .ok true => sameMembers leftRest rightRest
    | settled => settled
  | [], [] => .ok true
  | _, _ => .ok false

/-- Each entry is looked for under its own key, so the order of entries does not matter. -/
def sameEntries : List (String × Value) → List (String × Value) → Except DecimalSignal Bool
  | [], _ => .ok true
  | (key, left) :: rest, entries =>
    match entries.lookup key with
    | none => .ok false
    | some right =>
      match sameMember left right with
      | .ok true => sameEntries rest entries
      | settled => settled

end

/-- Null equals only null, numbers of all kinds are compared by value, and other values are
equal only within one kind. -/
def equals (left right : Value) : Except DecimalSignal Bool :=
  match left, right with
  | .number leftNumber, .number rightNumber => leftNumber.equals rightNumber
  | _, _ => if left.kind = right.kind then left.sameMember right else .ok false

/-- Only two numbers or two texts have an order. -/
def compare (left right : Value) : Except DecimalSignal (Option Ordering) :=
  match left, right with
  | .number leftNumber, .number rightNumber => leftNumber.compare rightNumber
  | .string leftText, .string rightText => .ok (some (Ord.compare leftText rightText))
  | _, _ => .ok none

end Predicates.Value
