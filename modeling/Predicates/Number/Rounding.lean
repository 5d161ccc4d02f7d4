/-
This file rounds a quotient of natural numbers to the nearest natural number.
-/

namespace Predicates

/-- A quotient halfway between two numbers goes to the even one. -/
def roundHalfEven (numerator denominator : Nat) : Nat :=
  let quotient := numerator / denominator
  let doubled := 2 * (numerator % denominator)
  if doubled < denominator || (doubled = denominator && quotient % 2 = 0) then quotient
  else quotient + 1

end Predicates
