/-
This file compares decimal numbers by their exact values.
-/

import Predicates.Number.Decimal

namespace Predicates.Decimal

/-- Nonzero magnitudes are compared by their leading digits' places first, so only coefficients
of nearly the same size are aligned. -/
def magnitudeOrder (leftCoefficient : Nat) (leftExponent : Int)
    (rightCoefficient : Nat) (rightExponent : Int) : Ordering :=
  if leftCoefficient = 0 || rightCoefficient = 0 then compare leftCoefficient rightCoefficient
  else
    (compare (adjustedExponent leftCoefficient leftExponent)
      (adjustedExponent rightCoefficient rightExponent)).then
    (compare (leftCoefficient * tenPower (leftExponent - rightExponent).toNat)
      (rightCoefficient * tenPower (rightExponent - leftExponent).toNat))

/-- The sign of zero is zero. -/
def signum (negative : Bool) (coefficient : Nat) : Int :=
  if coefficient = 0 then 0 else if negative then -1 else 1

def finiteOrder (leftNegative : Bool) (leftCoefficient : Nat) (leftExponent : Int)
    (rightNegative : Bool) (rightCoefficient : Nat) (rightExponent : Int) : Ordering :=
  (compare (signum leftNegative leftCoefficient) (signum rightNegative rightCoefficient)).then
    (if leftNegative then
      magnitudeOrder rightCoefficient rightExponent leftCoefficient leftExponent
    else magnitudeOrder leftCoefficient leftExponent rightCoefficient rightExponent)

/-- There is no order when one of the sides is not a number. -/
def order? : Decimal → Decimal → Option Ordering
  | .finite leftNegative leftCoefficient leftExponent,
    .finite rightNegative rightCoefficient rightExponent =>
    some (finiteOrder leftNegative leftCoefficient leftExponent
      rightNegative rightCoefficient rightExponent)
  | .infinity leftNegative, .infinity rightNegative =>
    some (if leftNegative = rightNegative then .eq else if leftNegative then .lt else .gt)
  | .infinity negative, .finite .. => some (if negative then .lt else .gt)
  | .finite .., .infinity negative => some (if negative then .gt else .lt)
  | _, _ => none

end Predicates.Decimal
