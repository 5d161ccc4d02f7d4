/-
This file joins the three kinds of numbers and compares them exactly.
-/

import Predicates.Number.BinaryDecimal
import Predicates.Number.DecimalOrder
import Predicates.Number.DecimalNegation

namespace Predicates

inductive Number where
  | integer (value : Int)
  | binary (value : Binary64)
  | decimal (value : Decimal)
  deriving DecidableEq

namespace Number

/-- A place on the binary grid is a signed number of units, with an end on either side for the
infinities. -/
inductive GridPlace where
  | lowest
  | inside (units : Int)
  | highest
  deriving DecidableEq

def GridPlace.order : GridPlace → GridPlace → Ordering
  | .lowest, .lowest => .eq
  | .lowest, _ => .lt
  | .inside _, .lowest => .gt
  | .inside left, .inside right => compare left right
  | .inside _, .highest => .lt
  | .highest, .highest => .eq
  | .highest, _ => .gt

/-- Integers and binary numbers lie on the grid without rounding. -/
def gridPlace? : Number → Option GridPlace
  | .integer value => some (.inside (value * Binary64.unitsPerOne))
  | .binary (.nan _) => none
  | .binary (.infinity negative) => some (if negative then .lowest else .highest)
  | .binary (.finite negative magnitude) =>
    let units : Int := Binary64.units magnitude.val
    some (.inside (if negative then -units else units))
  | .decimal _ => none

/-- A binary number becomes the decimal that its shortest notation writes. -/
def toDecimal : Number → Decimal
  | .integer value => .ofInt value
  | .binary (.nan _) => .quietNaN false 0
  | .binary (.infinity negative) => .infinity negative
  | .binary (.finite negative magnitude) =>
    let shortest := Binary64.shortestNotation magnitude
    .finite negative shortest.1 shortest.2
  | .decimal value => value

/-- A binary number becomes the decimal of the same value. -/
def toExactDecimal : Number → Decimal
  | .binary (.finite negative magnitude) =>
    .finite negative (Binary64.exactCoefficient magnitude.val) (-1074)
  | number => number.toDecimal

def isDecimal : Number → Bool
  | .decimal _ => true
  | _ => false

def isNaN : Number → Bool
  | .integer _ => false
  | .binary value => value.isNaN
  | .decimal value => value.isNaN

def isSignaling : Number → Bool
  | .decimal value => value.isSignaling
  | _ => false

/-- Both sides are brought to decimals when one of them is a decimal, and to the binary grid
otherwise. -/
def order? (left right : Number) : Option Ordering :=
  if left.isDecimal || right.isDecimal then left.toDecimal.order? right.toDecimal
  else
    match left.gridPlace?, right.gridPlace? with
    | some leftPlace, some rightPlace => some (leftPlace.order rightPlace)
    | _, _ => none

/-- Equality is refused for signaling numbers, and a quiet one equals nothing. -/
def equals (left right : Number) : Except DecimalSignal Bool :=
  if left.isSignaling || right.isSignaling then .error .invalidOperation
  else .ok (left.order? right = some .eq)

/-- The left side is looked at first, and a quiet side settles that there is no order. -/
def compare (left right : Number) : Except DecimalSignal (Option Ordering) :=
  if left.isSignaling then .error .invalidOperation
  else if left.isNaN then .ok none
  else if right.isSignaling then .error .invalidOperation
  else if right.isNaN then .ok none
  else .ok (left.order? right)

/-- Only what is not a number can be one object with another number and not be equal to it. -/
def isSameObject (left right : Number) : Bool :=
  left.isNaN && left = right

/-- Members of lists and mappings are the same when they are one object, and else they are compared
by exact value without rounding. The comparison is refused for signaling numbers. -/
def sameValue (left right : Number) : Except DecimalSignal Bool :=
  if left.isSameObject right then .ok true
  else if left.isSignaling || right.isSignaling then .error .invalidOperation
  else .ok (left.toExactDecimal.order? right.toExactDecimal = some .eq)

def negate : Number → Except DecimalSignal Number
  | .integer value => .ok (.integer (-value))
  | .binary value => .ok (.binary value.negate)
  | .decimal value => value.negate.map .decimal

end Number

end Predicates
