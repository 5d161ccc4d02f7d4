/-
This file adds and multiplies binary numbers.
-/

import Predicates.Number.Binary64

namespace Predicates.Binary64

def isNegative : Binary64 → Bool
  | .nan _ => false
  | .infinity negative => negative
  | .finite negative _ => negative

def isZero : Binary64 → Bool
  | .finite _ magnitude => magnitude.val = 0
  | _ => false

def signedUnits (negative : Bool) (magnitude : Nat) : Int :=
  if negative then -(units magnitude : Int) else units magnitude

/-- The exact sum is rounded once, and it is a negative zero only when both sides are. -/
def add (left right : Binary64) : Binary64 :=
  match left, right with
  | .nan _, _ => .nan
  | _, .nan _ => .nan
  | .infinity leftNegative, .infinity rightNegative =>
    if leftNegative = rightNegative then .infinity leftNegative else .nan
  | .infinity negative, .finite _ _ => .infinity negative
  | .finite _ _, .infinity negative => .infinity negative
  | .finite leftNegative leftMagnitude, .finite rightNegative rightMagnitude =>
    let total := signedUnits leftNegative leftMagnitude + signedUnits rightNegative rightMagnitude
    if total = 0 then .zero (leftNegative && rightNegative)
    else ofRatio (decide (total < 0)) total.natAbs unitsPerOne

/-- The exact product is rounded once, and infinity times zero is not a number. -/
def multiply (left right : Binary64) : Binary64 :=
  let negative := left.isNegative != right.isNegative
  match left, right with
  | .nan _, _ => .nan
  | _, .nan _ => .nan
  | .finite _ leftMagnitude, .finite _ rightMagnitude =>
    ofRatio negative (units leftMagnitude * units rightMagnitude) (unitsPerOne * unitsPerOne)
  | _, _ => if left.isZero || right.isZero then .nan else .infinity negative

/-- A natural number is rounded when it is in the range of the finite numbers. -/
def ofNat? (value : Nat) : Option Binary64 :=
  match ofRatio false value 1 with
  | .finite negative magnitude => some (.finite negative magnitude)
  | _ => none

end Predicates.Binary64
