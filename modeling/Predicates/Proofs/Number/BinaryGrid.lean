/-
This file shows that the nearest magnitude grows with the value and that a magnitude is nearest to
its own value.
-/

import Predicates.Number.Binary64
import Predicates.Proofs.Number.Rounding
import Mathlib.Data.Nat.Log
import Mathlib.Tactic.Ring

namespace Predicates.Binary64

theorem twoPower_eq (exponent : Nat) : twoPower exponent = 2 ^ exponent :=
  rfl

theorem twoPower_pos (exponent : Nat) : 0 < twoPower exponent :=
  Nat.pow_pos (by decide)

theorem binadeSize_pos : 0 < binadeSize :=
  twoPower_pos 52

theorem unitsPerOne_pos : 0 < unitsPerOne :=
  twoPower_pos 1074

variable {numerator denominator otherNumerator otherDenominator magnitude other : Nat}

/-- So many doublings bring a number of units into the lowest two binades. -/
def doublingsOf (units : Nat) : Nat :=
  units.log2 - 52

theorem nearestMagnitude_eq (numerator denominator : Nat) :
    nearestMagnitude numerator denominator =
      doublingsOf (numerator * unitsPerOne / denominator) * binadeSize +
        roundHalfEven (numerator * unitsPerOne)
          (denominator * twoPower (doublingsOf (numerator * unitsPerOne / denominator))) :=
  rfl

theorem doublingsOf_mono {units more : Nat} (le : units ≤ more) :
    doublingsOf units ≤ doublingsOf more := by
  unfold doublingsOf
  rw [Nat.log2_eq_log_two, Nat.log2_eq_log_two]
  exact Nat.sub_le_sub_right (Nat.log_mono_right le) 52

/-- The doublings leave less than two binades. -/
theorem lt_of_doublingsOf (units : Nat) :
    units < 2 * binadeSize * twoPower (doublingsOf units) := by
  have below : units < 2 ^ (units.log2 + 1) := Nat.lt_log2_self
  have most : 2 ^ (units.log2 + 1) ≤ 2 ^ (53 + doublingsOf units) :=
    Nat.pow_le_pow_right (by decide) (by unfold doublingsOf; omega)
  have split : 2 ^ (53 + doublingsOf units) = 2 * binadeSize * twoPower (doublingsOf units) := by
    rw [Nat.pow_add, twoPower_eq, binadeSize, twoPower_eq, ← Nat.pow_succ']
  omega

/-- Above the lowest two binades, at least one binade is left. -/
theorem le_of_doublingsOf {units : Nat} (doubled : 0 < doublingsOf units) :
    binadeSize * twoPower (doublingsOf units) ≤ units := by
  have nonzero : units ≠ 0 := by
    rintro rfl
    simp [doublingsOf] at doubled
  have least : 2 ^ units.log2 ≤ units := Nat.log2_self_le nonzero
  have split : 2 ^ units.log2 = binadeSize * twoPower (doublingsOf units) := by
    rw [binadeSize, twoPower_eq, twoPower_eq, ← Nat.pow_add]
    congr 1
    unfold doublingsOf at doubled ⊢
    omega
  omega

/-- The units of one place fill at most two binades. -/
theorem roundHalfEven_le_binades (numerator : Nat) (positive : 0 < denominator) :
    roundHalfEven numerator (denominator * twoPower (doublingsOf (numerator / denominator))) ≤
      2 * binadeSize := by
  have scale := Nat.mul_pos positive (twoPower_pos (doublingsOf (numerator / denominator)))
  rw [← roundHalfEven_mul (2 * binadeSize) scale]
  apply roundHalfEven_mono scale scale
  apply Nat.mul_le_mul_right
  have below := lt_of_doublingsOf (numerator / denominator)
  have product := (Nat.div_lt_iff_lt_mul positive).mp below
  calc numerator ≤ 2 * binadeSize * twoPower _ * denominator := Nat.le_of_lt product
    _ = 2 * binadeSize * (denominator * twoPower _) := by
        rw [Nat.mul_assoc, Nat.mul_comm (twoPower _)]

theorem binade_le_roundHalfEven (numerator : Nat) (positive : 0 < denominator)
    (doubled : 0 < doublingsOf (numerator / denominator)) :
    binadeSize ≤
      roundHalfEven numerator (denominator * twoPower (doublingsOf (numerator / denominator))) := by
  have scale := Nat.mul_pos positive (twoPower_pos (doublingsOf (numerator / denominator)))
  rw [← roundHalfEven_mul binadeSize scale]
  apply roundHalfEven_mono scale scale
  apply Nat.mul_le_mul_right
  have least := le_of_doublingsOf doubled
  have product := (Nat.le_div_iff_mul_le positive).mp least
  calc binadeSize * (denominator * twoPower _) = binadeSize * twoPower _ * denominator := by
        rw [Nat.mul_assoc, Nat.mul_comm (twoPower _)]
    _ ≤ numerator := product

/-- A greater quotient is not nearest to a smaller magnitude. -/
theorem nearestMagnitude_mono (positive : 0 < denominator) (otherPositive : 0 < otherDenominator)
    (le : numerator * otherDenominator ≤ otherNumerator * denominator) :
    nearestMagnitude numerator denominator ≤ nearestMagnitude otherNumerator otherDenominator := by
  have scaledLe : numerator * unitsPerOne * otherDenominator ≤
      otherNumerator * unitsPerOne * denominator := by
    rw [Nat.mul_right_comm, Nat.mul_right_comm otherNumerator]
    exact Nat.mul_le_mul_right unitsPerOne le
  rw [nearestMagnitude_eq, nearestMagnitude_eq]
  generalize numerator * unitsPerOne = scaled at scaledLe
  generalize otherNumerator * unitsPerOne = otherScaled at scaledLe
  have whole : scaled / denominator ≤ otherScaled / otherDenominator := by
    rw [Nat.le_div_iff_mul_le otherPositive]
    apply Nat.le_of_mul_le_mul_right _ positive
    calc scaled / denominator * otherDenominator * denominator
        = scaled / denominator * denominator * otherDenominator := Nat.mul_right_comm _ _ _
      _ ≤ scaled * otherDenominator := Nat.mul_le_mul_right _ (Nat.div_mul_le_self _ _)
      _ ≤ otherScaled * denominator := scaledLe
  rcases Nat.eq_or_lt_of_le (doublingsOf_mono whole) with same | fewer
  · -- In one binade, rounding keeps the order.
    rw [same]
    apply Nat.add_le_add_left
    apply roundHalfEven_mono (Nat.mul_pos positive (twoPower_pos _))
      (Nat.mul_pos otherPositive (twoPower_pos _))
    rw [← Nat.mul_assoc, ← Nat.mul_assoc]
    exact Nat.mul_le_mul_right _ scaledLe
  · -- Rounding does not leave the binades on either side.
    have most := roundHalfEven_le_binades scaled positive
    have least := binade_le_roundHalfEven otherScaled otherPositive
      (Nat.lt_of_le_of_lt (Nat.zero_le _) fewer)
    have binades := Nat.mul_le_mul_right binadeSize fewer
    rw [Nat.succ_mul] at binades
    generalize binadeSize = size at *
    omega

/-- The doublings and the significand make up the magnitude. -/
theorem doublings_add_significand (magnitude : Nat) :
    doublings magnitude * binadeSize + significand magnitude = magnitude := by
  have most : doublings magnitude * binadeSize ≤ magnitude :=
    Nat.le_trans (Nat.mul_le_mul_right _ (Nat.sub_le _ 1)) (Nat.div_mul_le_self _ _)
  exact Nat.add_sub_cancel' most

theorem significand_lt (magnitude : Nat) : significand magnitude < 2 * binadeSize := by
  have sum := doublings_add_significand magnitude
  have division := Nat.div_add_mod magnitude binadeSize
  have remainder := Nat.mod_lt magnitude binadeSize_pos
  unfold doublings at sum
  generalize binadeSize = size at *
  rcases Nat.eq_zero_or_pos (magnitude / size) with lowest | higher
  · rw [lowest] at sum division
    omega
  · obtain ⟨binade, same⟩ := Nat.exists_eq_add_of_lt higher
    rw [same] at sum division
    have product : size * (0 + binade + 1) = binade * size + size := by ring
    have shifted : (0 + binade + 1 - 1) * size = binade * size := by
      rw [Nat.zero_add, Nat.add_sub_cancel]
    omega

theorem binadeSize_le_significand (doubled : 0 < doublings magnitude) :
    binadeSize ≤ significand magnitude := by
  have sum := doublings_add_significand magnitude
  have division := Nat.div_mul_le_self magnitude binadeSize
  have next : magnitude / binadeSize = doublings magnitude + 1 := by
    unfold doublings at doubled ⊢
    omega
  rw [next, Nat.succ_mul] at division
  generalize binadeSize = size at *
  omega

/-- A magnitude has as many doublings as its units. -/
theorem doublingsOf_units (magnitude : Nat) :
    doublingsOf (units magnitude) = doublings magnitude := by
  have below : units magnitude < 2 ^ (53 + doublings magnitude) := by
    have scaled := Nat.mul_lt_mul_of_pos_right (significand_lt magnitude)
      (twoPower_pos (doublings magnitude))
    have split : 2 ^ (53 + doublings magnitude) =
        2 * binadeSize * twoPower (doublings magnitude) := by
      rw [Nat.pow_add, twoPower_eq, binadeSize, twoPower_eq, ← Nat.pow_succ']
    rw [split]
    exact scaled
  rcases Nat.eq_zero_or_pos (doublings magnitude) with lowest | doubled
  · rw [lowest] at below ⊢
    unfold doublingsOf
    rw [Nat.log2_eq_log_two]
    have few : Nat.log 2 (units magnitude) < 53 := Nat.log_lt_of_lt_pow' (by decide) below
    omega
  · have least : 2 ^ (52 + doublings magnitude) ≤ units magnitude := by
      have scaled := Nat.mul_le_mul_right (twoPower (doublings magnitude))
        (binadeSize_le_significand doubled)
      rw [Nat.pow_add]
      exact scaled
    have nonzero : units magnitude ≠ 0 := fun zero => by
      rw [zero] at least
      exact absurd least (Nat.not_le.mpr (Nat.pow_pos (by decide)))
    unfold doublingsOf
    rw [(Nat.log2_eq_iff nonzero).mpr ⟨least, by rwa [Nat.add_right_comm]⟩]
    omega

/-- A magnitude is nearest to its own units. -/
theorem nearestMagnitude_units (positive : 0 < denominator)
    (same : numerator * unitsPerOne = units magnitude * denominator) :
    nearestMagnitude numerator denominator = magnitude := by
  rw [nearestMagnitude_eq, same, Nat.mul_div_cancel _ positive, doublingsOf_units]
  have product : units magnitude * denominator =
      significand magnitude * (denominator * twoPower (doublings magnitude)) := by
    rw [units, Nat.mul_assoc, Nat.mul_comm (twoPower _)]
  rw [product, roundHalfEven_mul _ (Nat.mul_pos positive (twoPower_pos _))]
  exact doublings_add_significand magnitude

/-- Greater magnitudes have more units. -/
theorem units_strictMono : StrictMono units := by
  intro magnitude other less
  by_contra notBelow
  have nearest : nearestMagnitude (units other) unitsPerOne ≤
      nearestMagnitude (units magnitude) unitsPerOne :=
    nearestMagnitude_mono unitsPerOne_pos unitsPerOne_pos
      (Nat.mul_le_mul_right unitsPerOne (Nat.le_of_not_lt notBelow))
  rw [nearestMagnitude_units unitsPerOne_pos rfl, nearestMagnitude_units unitsPerOne_pos rfl]
    at nearest
  exact absurd less (Nat.not_lt.mpr nearest)

end Predicates.Binary64
