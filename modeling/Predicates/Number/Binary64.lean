/-
This file holds the binary floating-point numbers of 64 bits.
-/

import Predicates.Number.Rounding

namespace Predicates

namespace Binary64

def twoPower (exponent : Nat) : Nat :=
  Nat.pow 2 exponent

/-- The magnitudes from one power of two to the next make up a binade. -/
def binadeSize : Nat := twoPower 52

def magnitudeCount : Nat := 2047 * binadeSize

/-- Every finite magnitude is a whole number of units. -/
def unitsPerOne : Nat := twoPower 1074

end Binary64

/-- The finite magnitudes are numbered from zero in increasing order. What is not a number is told
apart by the object that holds it. -/
inductive Binary64 where
  | nan (object : Nat := 0)
  | infinity (negative : Bool)
  | finite (negative : Bool) (magnitude : Fin Binary64.magnitudeCount)
  deriving DecidableEq

namespace Binary64

def zero (negative : Bool) : Binary64 :=
  .finite negative ⟨0, by decide⟩

/-- A magnitude in the lowest two binades counts units, and each binade above doubles them. -/
def doublings (magnitude : Nat) : Nat :=
  magnitude / binadeSize - 1

def significand (magnitude : Nat) : Nat :=
  magnitude - doublings magnitude * binadeSize

def units (magnitude : Nat) : Nat :=
  significand magnitude * twoPower (doublings magnitude)

def isNaN : Binary64 → Bool
  | .nan _ => true
  | _ => false

def negate : Binary64 → Binary64
  | .nan _ => .nan
  | .infinity negative => .infinity (!negative)
  | .finite negative magnitude => .finite (!negative) magnitude

/-- Magnitudes past the largest finite one become infinite. -/
def ofMagnitude (negative : Bool) (magnitude : Nat) : Binary64 :=
  if inRange : magnitude < magnitudeCount then .finite negative ⟨magnitude, inRange⟩
  else .infinity negative

/-- The magnitude nearest to a quotient keeps 53 binary places, or fewer below the normal
numbers. -/
def nearestMagnitude (numerator denominator : Nat) : Nat :=
  let scaled := numerator * unitsPerOne
  let doublings := (scaled / denominator).log2 - 52
  doublings * binadeSize + roundHalfEven scaled (denominator * twoPower doublings)

def ofRatio (negative : Bool) (numerator denominator : Nat) : Binary64 :=
  ofMagnitude negative (nearestMagnitude numerator denominator)

/-- The lowest 63 bits hold the magnitude, and the next one holds the sign. -/
def ofBits (bits : Nat) : Binary64 :=
  let negative := bits / twoPower 63 % 2 = 1
  let magnitude := bits % twoPower 63
  if magnitude = magnitudeCount then .infinity negative
  else if inRange : magnitude < magnitudeCount then .finite negative ⟨magnitude, inRange⟩
  else .nan

/-- The bits of a number that is not a number are not kept. -/
def bits? : Binary64 → Option Nat
  | .nan _ => none
  | .infinity negative => some ((if negative then twoPower 63 else 0) + magnitudeCount)
  | .finite negative magnitude => some ((if negative then twoPower 63 else 0) + magnitude.val)

end Binary64

end Predicates
