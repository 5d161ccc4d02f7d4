/-
This file describes classes of characters by ranges of code points.
-/

namespace Predicates

/-- Both ends belong to the range. -/
structure CodeRange where
  first : Nat
  last : Nat
  deriving DecidableEq, Repr

def CodeRange.contains (range : CodeRange) (code : Nat) : Bool :=
  range.first ≤ code && code ≤ range.last

/-- A character belongs to a class when one of the ranges holds its code point. -/
def CodeRange.holds (ranges : List CodeRange) (character : Char) : Bool :=
  ranges.any fun range => range.contains character.toNat

end Predicates
