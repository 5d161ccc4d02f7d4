/-
This file negates decimal numbers within the working precision.
-/

import Predicates.Number.Decimal
import Predicates.Number.Rounding

namespace Predicates

/-- A decimal operation raises a signal when it has no answer. -/
inductive DecimalSignal where
  | overflow
  | invalidOperation
  deriving DecidableEq

namespace Decimal

/-- Results keep this many digits. -/
def workingPlaces : Nat := 28

/-- The leading digit of a result may not pass this power of ten. -/
def largestExponent : Int := 999999

/-- The last digit of a result may not fall below this power of ten. -/
def leastExponent : Int := -1000026

/-- The power of ten of a result's last digit leaves at most the working places above it. -/
def roundedExponent (coefficient : Nat) (exponent : Int) : Int :=
  max (max exponent (adjustedExponent coefficient exponent - workingPlaces + 1)) leastExponent

/-- The coefficient loses its last digits and is rounded half to even. Nothing is left when
more digits are dropped than there are. -/
def roundedCoefficient (coefficient dropped : Nat) : Nat :=
  if decimalPlaces coefficient < dropped then 0
  else roundHalfEven coefficient (tenPower dropped)

/-- A coefficient that was carried to one more place gives the place back. -/
def normalized (negative : Bool) (coefficient : Nat) (exponent : Int) : Decimal :=
  if decimalPlaces coefficient ≤ workingPlaces then .finite negative coefficient exponent
  else .finite negative (coefficient / 10) (exponent + 1)

/-- The nearest number with the working precision is overflowed past the largest exponent. -/
def rounded (negative : Bool) (coefficient : Nat) (exponent : Int) :
    Except DecimalSignal Decimal :=
  let lastPlace := roundedExponent coefficient exponent
  let kept := roundedCoefficient coefficient (lastPlace - exponent).toNat
  if largestExponent < adjustedExponent kept lastPlace then .error .overflow
  else .ok (normalized negative kept lastPlace)

/-- Negation rounds to the working precision, and a zero always becomes positive. -/
def negate : Decimal → Except DecimalSignal Decimal
  | .finite negative coefficient exponent =>
    if coefficient = 0 then
      .ok (.finite false 0 (max leastExponent (min exponent largestExponent)))
    else if largestExponent < adjustedExponent coefficient exponent then .error .overflow
    else rounded (!negative) coefficient exponent
  | .infinity negative => .ok (.infinity (!negative))
  | .quietNaN negative payload _ => .ok (.quietNaN negative (payload % tenPower workingPlaces))
  | .signalingNaN .. => .error .invalidOperation

end Decimal

end Predicates
