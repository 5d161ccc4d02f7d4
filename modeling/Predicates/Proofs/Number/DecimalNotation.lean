/-
This file shows that decimal notation is read as the nearest binary number, so that the shortest
notations stand in the order of the magnitudes they are read as.
-/

import Predicates.Number.BinaryDecimal
import Predicates.Proofs.Number.BinaryGrid
import Predicates.Proofs.Number.Places
import Mathlib.Algebra.Order.Field.Power
import Mathlib.Algebra.Order.Field.Rat
import Mathlib.Order.Fin.Basic
import Mathlib.Tactic.NormNum

namespace Predicates

/-- The value of a notation is its coefficient times a power of ten. -/
def notationValue (coefficient : Nat) (exponent : Int) : ℚ :=
  coefficient * 10 ^ exponent

variable {coefficient otherCoefficient : Nat} {exponent otherExponent : Int}

theorem notationValue_zero (exponent : Int) : notationValue 0 exponent = 0 := by
  rw [notationValue, Nat.cast_zero, zero_mul]

theorem notationValue_one (exponent : Int) : notationValue 1 exponent = 10 ^ exponent := by
  rw [notationValue, Nat.cast_one, one_mul]

theorem notationValue_pos (nonzero : coefficient ≠ 0) (exponent : Int) :
    0 < notationValue coefficient exponent :=
  mul_pos (Nat.cast_pos.mpr (Nat.pos_of_ne_zero nonzero)) (zpow_pos (by norm_num) _)

theorem notationValue_nonneg (coefficient : Nat) (exponent : Int) :
    0 ≤ notationValue coefficient exponent :=
  mul_nonneg (Nat.cast_nonneg _) (zpow_pos (by norm_num) _).le

theorem coefficient_eq_zero (le : notationValue coefficient exponent ≤ 0) : coefficient = 0 := by
  by_contra nonzero
  exact absurd le (not_le.mpr (notationValue_pos nonzero exponent))

/-- A lower exponent makes room for zeros behind the coefficient. -/
theorem notationValue_mul_pow (coefficient places : Nat) (exponent : Int) :
    notationValue (coefficient * 10 ^ places) exponent =
      notationValue coefficient (places + exponent) := by
  rw [notationValue, notationValue, Nat.cast_mul, Nat.cast_pow, Nat.cast_ofNat, mul_assoc,
    ← zpow_natCast, ← zpow_add₀ (by norm_num)]

theorem notationValue_lt (coefficient : Nat) (exponent : Int) :
    notationValue coefficient exponent < 10 ^ ((decimalPlaces coefficient : Int) + exponent) := by
  have below : (coefficient : ℚ) < 10 ^ (decimalPlaces coefficient : Int) := by
    rw [zpow_natCast]
    exact_mod_cast lt_pow_decimalPlaces coefficient
  rw [zpow_add₀ (by norm_num)]
  exact mul_lt_mul_of_pos_right below (zpow_pos (by norm_num) _)

theorem le_notationValue (nonzero : coefficient ≠ 0) (exponent : Int) :
    10 ^ ((decimalPlaces coefficient : Int) + exponent - 1) ≤
      notationValue coefficient exponent := by
  have least : (10 : ℚ) ^ ((decimalPlaces coefficient : Int) - 1) ≤ coefficient := by
    have places : (decimalPlaces coefficient : Int) - 1 =
        ((decimalPlaces coefficient - 1 : Nat) : Int) := by
      have positive := decimalPlaces_pos coefficient
      omega
    rw [places, zpow_natCast]
    exact_mod_cast pow_le_of_ne_zero nonzero
  rw [add_sub_right_comm, zpow_add₀ (by norm_num)]
  exact mul_le_mul_of_nonneg_right least (zpow_nonneg (by norm_num) _)

/-- The same value is a quotient of natural numbers. -/
theorem notationValue_eq_div (coefficient : Nat) (exponent : Int) :
    notationValue coefficient exponent =
      ((coefficient * tenPower exponent.toNat : Nat) : ℚ) / (tenPower (-exponent).toNat : Nat) := by
  have positive : (tenPower (-exponent).toNat : ℚ) ≠ 0 := by
    exact_mod_cast Nat.ne_of_gt (tenPower_pos _)
  rw [eq_div_iff positive, notationValue, tenPower_eq, tenPower_eq]
  push_cast
  rw [mul_assoc, ← zpow_natCast, ← zpow_natCast, ← zpow_add₀ (by norm_num)]
  congr 2
  omega

namespace Binary64

/-- The magnitude nearest to a notation. -/
def nearestNotation (coefficient : Nat) (exponent : Int) : Nat :=
  nearestMagnitude (coefficient * tenPower exponent.toNat) (tenPower (-exponent).toNat)

/-- A greater value is not nearest to a smaller magnitude. -/
theorem nearestNotation_mono
    (le : notationValue coefficient exponent ≤ notationValue otherCoefficient otherExponent) :
    nearestNotation coefficient exponent ≤ nearestNotation otherCoefficient otherExponent := by
  apply nearestMagnitude_mono (tenPower_pos _) (tenPower_pos _)
  rw [notationValue_eq_div, notationValue_eq_div, div_le_div_iff₀ (by exact_mod_cast tenPower_pos _)
    (by exact_mod_cast tenPower_pos _)] at le
  exact_mod_cast le

/-- The nearest magnitude depends on the value only. -/
theorem nearestNotation_congr
    (same : notationValue coefficient exponent = notationValue otherCoefficient otherExponent) :
    nearestNotation coefficient exponent = nearestNotation otherCoefficient otherExponent :=
  Nat.le_antisymm (nearestNotation_mono same.le) (nearestNotation_mono same.ge)

theorem nearestNotation_zero (exponent : Int) : nearestNotation 0 exponent = 0 := by
  have same : notationValue 0 exponent = notationValue 0 0 := by
    rw [notationValue_zero, notationValue_zero]
  have none : nearestNotation 0 0 = 0 := by decide +kernel
  rw [nearestNotation_congr same, none]

/-- A notation that is far below the least magnitude is nearest to zero. -/
theorem nearestNotation_of_small (few : (decimalPlaces coefficient : Int) + exponent < -400) :
    nearestNotation coefficient exponent = 0 := by
  have tiny : notationValue coefficient exponent ≤ notationValue 1 (-400) := by
    have below := notationValue_lt coefficient exponent
    have power : (10 : ℚ) ^ ((decimalPlaces coefficient : Int) + exponent) ≤ 10 ^ (-400 : Int) :=
      zpow_le_zpow_right₀ (by norm_num) (Int.le_of_lt few)
    rw [notationValue_one]
    exact (below.trans_le power).le
  have none : nearestNotation 1 (-400) = 0 := by decide +kernel
  exact Nat.le_zero.mp (none ▸ nearestNotation_mono tiny)

/-- A notation that is far above the greatest magnitude is nearest to no finite one. -/
theorem nearestNotation_of_large (nonzero : coefficient ≠ 0)
    (many : 400 < (decimalPlaces coefficient : Int) + exponent) :
    magnitudeCount ≤ nearestNotation coefficient exponent := by
  have huge : notationValue 1 400 ≤ notationValue coefficient exponent := by
    have least := le_notationValue nonzero exponent
    have power : (10 : ℚ) ^ (400 : Int) ≤ 10 ^ ((decimalPlaces coefficient : Int) + exponent - 1) :=
      zpow_le_zpow_right₀ (by norm_num) (by omega)
    rw [notationValue_one]
    exact power.trans least
  have past : magnitudeCount ≤ nearestNotation 1 400 := by decide +kernel
  exact past.trans (nearestNotation_mono huge)

theorem ofMagnitude_zero (negative : Bool) : ofMagnitude negative 0 = .zero negative :=
  rfl

/-- The early answers for extreme notations agree with the nearest magnitude. -/
theorem ofDecimalNotation_eq (negative : Bool) (coefficient : Nat) (exponent : Int) :
    ofDecimalNotation negative coefficient exponent =
      ofMagnitude negative (nearestNotation coefficient exponent) := by
  unfold ofDecimalNotation
  dsimp only
  split
  · rename_i small
    have none : nearestNotation coefficient exponent = 0 := by
      simp only [Bool.or_eq_true, decide_eq_true_eq] at small
      rcases small with rfl | few
      · exact nearestNotation_zero exponent
      · exact nearestNotation_of_small few
    rw [none, ofMagnitude_zero]
  · rename_i notSmall
    simp only [Bool.or_eq_true, decide_eq_true_eq, not_or] at notSmall
    split
    · rename_i many
      rw [ofMagnitude, dif_neg (Nat.not_lt.mpr (nearestNotation_of_large notSmall.1 many))]
    · rfl

theorem ofMagnitude_eq_finite {negative : Bool} {nearest : Nat} {magnitude : Fin magnitudeCount} :
    ofMagnitude negative nearest = .finite negative magnitude ↔ nearest = magnitude.val := by
  unfold ofMagnitude
  split
  · rw [Binary64.finite.injEq, Fin.ext_iff]
    exact and_iff_right rfl
  · rename_i outOfRange
    constructor
    · intro impossible
      cases impossible
    · intro same
      exact absurd (same ▸ magnitude.isLt) outOfRange

theorem readsBack_eq_true {magnitude : Fin magnitudeCount} :
    readsBack magnitude coefficient exponent = true ↔
      nearestNotation coefficient exponent = magnitude.val := by
  rw [readsBack, decide_eq_true_eq, ofDecimalNotation_eq, ofMagnitude_eq_finite]

/-- A carried coefficient keeps its value. -/
theorem notationValue_carried (coefficient places : Nat) (exponent : Int) :
    notationValue (carried coefficient places exponent).1 (carried coefficient places exponent).2 =
      notationValue coefficient exponent := by
  unfold carried
  split
  · rename_i power
    rw [power, notationValue_one, notationValue, tenPower_eq, Nat.cast_pow, Nat.cast_ofNat,
      ← zpow_natCast, ← zpow_add₀ (by norm_num), add_comm]
  · rfl

/-- Neighbours are taken only when they read back. -/
theorem nearestNotation_of_notationWithPlaces {magnitude : Fin magnitudeCount} {places : Nat}
    {found : Nat × Int} (taken : notationWithPlaces? magnitude places = some found) :
    nearestNotation found.1 found.2 = magnitude.val := by
  unfold notationWithPlaces? at taken
  dsimp only at taken
  split at taken
  · rename_i below
    cases taken
    exact readsBack_eq_true.mp (Bool.and_eq_true_iff.mp below).1
  · split at taken
    · rename_i above
      cases taken
      rw [nearestNotation_congr (notationValue_carried _ _ _)]
      exact readsBack_eq_true.mp (Bool.and_eq_true_iff.mp above).2
    · cases taken

theorem mul_tenPower (whole places : Nat) :
    whole * Nat.pow 5 places * tenPower 0 * twoPower places = whole * tenPower places := by
  have split : Nat.pow 5 places * twoPower places = tenPower places :=
    (Nat.mul_pow 5 2 places).symm
  rw [tenPower_eq 0, Nat.pow_zero, Nat.mul_one, Nat.mul_assoc, split]

theorem exactCoefficient_mul (magnitude : Nat) :
    exactCoefficient magnitude * tenPower 0 * unitsPerOne = units magnitude * tenPower 1074 := by
  unfold exactCoefficient unitsPerOne
  apply mul_tenPower

theorem nearestNotation_exact (magnitude : Nat) :
    nearestNotation (exactCoefficient magnitude) (-1074) = magnitude :=
  nearestMagnitude_units (tenPower_pos 1074) (exactCoefficient_mul magnitude)

/-- The shortest notation reads back. -/
theorem nearestNotation_shortest (magnitude : Fin magnitudeCount) :
    nearestNotation (shortestNotation magnitude).1 (shortestNotation magnitude).2 =
      magnitude.val := by
  unfold shortestNotation
  split
  · rename_i zero
    rw [zero]
    decide +kernel
  · cases searched : (List.range 17).findSome? fun count =>
        notationWithPlaces? magnitude (count + 1) with
    | none => exact nearestNotation_exact magnitude.val
    | some found =>
        obtain ⟨count, -, taken⟩ := List.exists_of_findSome?_eq_some searched
        exact nearestNotation_of_notationWithPlaces taken

/-- The value that the shortest notation of a magnitude writes. -/
def shortestValue (magnitude : Fin magnitudeCount) : ℚ :=
  notationValue (shortestNotation magnitude).1 (shortestNotation magnitude).2

/-- Greater magnitudes have shortest notations of greater value. -/
theorem shortestValue_strictMono : StrictMono shortestValue := by
  intro magnitude other less
  by_contra notBelow
  have nearest := nearestNotation_mono (not_lt.mp notBelow)
  rw [nearestNotation_shortest, nearestNotation_shortest] at nearest
  exact absurd less (Nat.not_lt.mpr nearest)

theorem shortestValue_zero (inRange : 0 < magnitudeCount) : shortestValue ⟨0, inRange⟩ = 0 :=
  notationValue_zero 0

end Binary64

end Predicates
