/-
This file carries numbers between decimal and binary notation.
-/

import Predicates.Number.Binary64
import Predicates.Text.DecimalDigit

namespace Predicates.Binary64

/-- Decimal notation is a coefficient times a power of ten. The two early answers only spare
powers of ten that are far outside the range. -/
def ofDecimalNotation (negative : Bool) (coefficient : Nat) (exponent : Int) : Binary64 :=
  let places := (decimalPlaces coefficient : Int) + exponent
  if coefficient = 0 || places < -400 then .zero negative
  else if 400 < places then .infinity negative
  else ofRatio negative (coefficient * tenPower exponent.toNat) (tenPower (-exponent).toNat)

/-- A magnitude has an exact decimal notation with the exponent -1074. -/
def exactCoefficient (magnitude : Nat) : Nat :=
  units magnitude * Nat.pow 5 1074

def readsBack (magnitude : Fin magnitudeCount) (coefficient : Nat) (exponent : Int) : Bool :=
  ofDecimalNotation false coefficient exponent = .finite false magnitude

/-- A coefficient that was rounded up to a power of ten is written with the single digit one. -/
def carried (coefficient places : Nat) (exponent : Int) : Nat × Int :=
  if coefficient = tenPower places then (1, exponent + places) else (coefficient, exponent)

/-- Of the two neighbours with the given number of places, the nearer one that reads back is
taken, and the even one when both are equally near. -/
def notationWithPlaces? (magnitude : Fin magnitudeCount) (places : Nat) : Option (Nat × Int) :=
  let exact := exactCoefficient magnitude.val
  let dropped := decimalPlaces exact - places
  let exponent : Int := dropped - 1074
  let below := exact / tenPower dropped
  let excess := exact % tenPower dropped
  let belowReads := readsBack magnitude below exponent
  let aboveReads := excess ≠ 0 && readsBack magnitude (below + 1) exponent
  let belowNearer :=
    2 * excess < tenPower dropped || (2 * excess = tenPower dropped && below % 2 = 0)
  if belowReads && (belowNearer || !aboveReads) then some (below, exponent)
  else if aboveReads then some (carried (below + 1) places exponent)
  else none

/-- The shortest notation has the fewest places that read back. Seventeen are always enough,
and the exact notation stands last. -/
def shortestNotation (magnitude : Fin magnitudeCount) : Nat × Int :=
  if magnitude.val = 0 then (0, 0)
  else ((List.range 17).findSome? fun count => notationWithPlaces? magnitude (count + 1)).getD
    (exactCoefficient magnitude.val, -1074)

def zeros (count : Int) : List Char :=
  List.replicate count.toNat '0'

/-- The point stands after the given number of digits. -/
def positionalText (digits : List Char) (point : Int) : List Char :=
  if point ≤ 0 then '0' :: '.' :: zeros (-point) ++ digits
  else if (digits.length : Int) ≤ point then
    digits ++ zeros (point - digits.length) ++ ['.', '0']
  else digits.take point.toNat ++ '.' :: digits.drop point.toNat

/-- A single leading digit stands before the point, and the exponent has at least two places. -/
def scientificText (digits : List Char) (exponent : Int) : List Char :=
  let lead := digits.take 1 ++ (if digits.length ≤ 1 then [] else '.' :: digits.drop 1)
  let places := Nat.toDigits 10 exponent.natAbs
  lead ++ 'e' :: (if exponent < 0 then '-' else '+') ::
    (if places.length < 2 then '0' :: places else places)

/-- Numbers are written positionally from 0.0001 up to sixteen places before the point. -/
def magnitudeText (magnitude : Fin magnitudeCount) : List Char :=
  let (coefficient, exponent) := shortestNotation magnitude
  let digits := Nat.toDigits 10 coefficient
  let point := (digits.length : Int) + exponent
  if -4 < point && point ≤ 16 then positionalText digits point
  else scientificText digits (point - 1)

def signText (negative : Bool) : List Char :=
  if negative then ['-'] else []

def text : Binary64 → String
  | .nan _ => "nan"
  | .infinity negative => if negative then "-inf" else "inf"
  | .finite negative magnitude => String.ofList (signText negative ++ magnitudeText magnitude)

end Predicates.Binary64
