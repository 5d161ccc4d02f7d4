/-
This file shows which numbers make negation and comparison raise a signal.
-/

import Predicates.Number
import Predicates.Proofs.Number.Places
import Predicates.Proofs.Number.Rounding
import Predicates.Proofs.Outcome

namespace Predicates

namespace Decimal

/-- A settled number has no more places than results keep, and its exponents are in range. -/
def Settled : Decimal → Prop
  | .finite _ coefficient exponent =>
    coefficient = 0 ∨ decimalPlaces coefficient ≤ workingPlaces ∧ leastExponent ≤ exponent ∧
      adjustedExponent coefficient exponent ≤ largestExponent
  | .signalingNaN .. => False
  | _ => True

variable {coefficient : Nat} {exponent : Int}

/-- Dropping more digits than there are leaves nothing by rounding too. -/
theorem roundedCoefficient_eq (coefficient dropped : Nat) :
    roundedCoefficient coefficient dropped = roundHalfEven coefficient (tenPower dropped) := by
  unfold roundedCoefficient
  split
  · rename_i few
    have below : 10 * coefficient < 10 ^ dropped := by
      have least := lt_pow_decimalPlaces coefficient
      have most : 10 ^ (decimalPlaces coefficient + 1) ≤ 10 ^ dropped :=
        Nat.pow_le_pow_right (by decide) few
      rw [Nat.pow_succ] at most
      omega
    have underHalf : 2 * coefficient < 10 ^ dropped := by omega
    rw [tenPower_eq, roundHalfEven, Nat.div_eq_of_lt (by omega), Nat.mod_eq_of_lt (by omega)]
    simp only [decide_eq_true underHalf, Bool.true_or, if_true]
  · rfl

theorem roundedCoefficient_zero (coefficient : Nat) :
    roundedCoefficient coefficient 0 = coefficient := by
  have whole := roundHalfEven_mul coefficient (tenPower_pos 0)
  rw [roundedCoefficient_eq]
  rwa [tenPower_eq, Nat.pow_zero, Nat.mul_one] at whole

/-- Rounding to the working places can carry to one more place, and then all others are zero. -/
theorem roundedCoefficient_le (coefficient : Nat) (exponent : Int) :
    roundedCoefficient coefficient (roundedExponent coefficient exponent - exponent).toNat ≤
      10 ^ workingPlaces := by
  have kept : decimalPlaces coefficient ≤
      workingPlaces + (roundedExponent coefficient exponent - exponent).toNat := by
    have places : adjustedExponent coefficient exponent - workingPlaces + 1 ≤
        roundedExponent coefficient exponent :=
      Int.le_trans (Int.le_max_right _ _) (Int.le_max_left _ _)
    simp only [adjustedExponent] at places
    omega
  generalize (roundedExponent coefficient exponent - exponent).toNat = dropped at *
  have below : coefficient ≤ 10 ^ workingPlaces * tenPower dropped := by
    have least := lt_pow_decimalPlaces coefficient
    have most := Nat.pow_le_pow_right (by decide : 0 < 10) kept
    rw [Nat.pow_add] at most
    exact Nat.le_of_lt (Nat.lt_of_lt_of_le least most)
  rw [roundedCoefficient_eq, ← roundHalfEven_mul (10 ^ workingPlaces) (tenPower_pos dropped)]
  exact roundHalfEven_mono (tenPower_pos dropped) (tenPower_pos dropped)
    (Nat.mul_le_mul_right _ below)

/-- Whatever rounding leaves needs no further rounding. -/
theorem settled_of_rounded {negative : Bool} {result : Decimal}
    (found : rounded negative coefficient exponent = .ok result) : result.Settled := by
  unfold rounded at found
  dsimp only at found
  have least : leastExponent ≤ roundedExponent coefficient exponent := Int.le_max_right _ _
  have carried : roundedCoefficient coefficient
      (roundedExponent coefficient exponent - exponent).toNat < 10 ^ (workingPlaces + 1) :=
    Nat.lt_of_le_of_lt (roundedCoefficient_le coefficient exponent)
      (Nat.pow_lt_pow_right (by decide) (Nat.lt_succ_self _))
  generalize roundedExponent coefficient exponent = lastPlace at *
  generalize roundedCoefficient coefficient (lastPlace - exponent).toNat = kept at *
  split at found
  · simp at found
  · rename_i inRange
    cases found
    unfold normalized
    split
    · rename_i fits
      exact Or.inr ⟨fits, least, Int.not_lt.mp inRange⟩
    · rename_i excess
      have several : 10 ≤ kept := by
        by_contra single
        have one : decimalPlaces kept ≤ 1 :=
          (decimalPlaces_le_iff Nat.one_pos).mpr (Nat.lt_of_not_le single)
        exact excess (Nat.le_trans one (by decide))
      have places := decimalPlaces_div_ten several
      have most := (decimalPlaces_le_iff (Nat.succ_pos workingPlaces)).mpr carried
      simp only [adjustedExponent] at inRange
      refine Or.inr ⟨by omega, by omega, ?_⟩
      simp only [adjustedExponent]
      omega

/-- A settled number that is not zero is negated without rounding. -/
theorem rounded_of_settled {negative : Bool} (fits : decimalPlaces coefficient ≤ workingPlaces)
    (least : leastExponent ≤ exponent)
    (inRange : adjustedExponent coefficient exponent ≤ largestExponent) :
    rounded negative coefficient exponent = .ok (.finite negative coefficient exponent) := by
  have same : roundedExponent coefficient exponent = exponent := by
    simp only [roundedExponent, adjustedExponent]
    omega
  unfold rounded
  dsimp only
  rw [same, Int.sub_self, Int.toNat_zero, roundedCoefficient_zero, if_neg (Int.not_lt.mpr inRange),
    normalized, if_pos fits]

/-- Zero is negated to the positive zero, and other finite numbers are rounded. -/
theorem negate_finite_eq_ok {negative : Bool} {result : Decimal}
    (negated : (finite negative coefficient exponent).negate = .ok result) :
    (coefficient = 0 ∧ ∃ place, result = finite false 0 place) ∨
      rounded (!negative) coefficient exponent = .ok result := by
  simp only [negate] at negated
  split at negated
  · rename_i zero
    cases negated
    exact Or.inl ⟨zero, _, rfl⟩
  · split at negated
    · cases negated
    · exact Or.inr negated

/-- A negation that succeeds leaves a settled number. -/
theorem settled_of_negate {decimal result : Decimal} (negated : decimal.negate = .ok result) :
    result.Settled := by
  cases decimal with
  | finite negative coefficient exponent =>
      obtain ⟨-, place, rfl⟩ | found := negate_finite_eq_ok negated
      · exact Or.inl rfl
      · exact settled_of_rounded found
  | infinity negative =>
      cases negated
      trivial
  | quietNaN negative payload object =>
      cases negated
      trivial
  | signalingNaN negative payload object => simp [negate] at negated

/-- A settled number can be negated. -/
theorem Settled.negate {decimal : Decimal} (settled : decimal.Settled) :
    ∃ result, decimal.negate = .ok result := by
  cases decimal with
  | finite negative coefficient exponent =>
      simp only [Decimal.negate]
      by_cases zero : coefficient = 0
      · exact ⟨_, if_pos zero⟩
      · obtain ⟨fits, least, inRange⟩ := settled.resolve_left zero
        refine ⟨.finite (!negative) coefficient exponent, ?_⟩
        rw [if_neg zero, if_neg (Int.not_lt.mpr inRange), rounded_of_settled fits least inRange]
  | infinity negative => exact ⟨_, rfl⟩
  | quietNaN negative payload object => exact ⟨_, rfl⟩
  | signalingNaN negative payload object => exact settled.elim

theorem Settled.not_signaling {decimal : Decimal} (settled : decimal.Settled) :
    decimal.isSignaling = false := by
  cases decimal with
  | signalingNaN negative payload object => exact settled.elim
  | _ => rfl

/-- Negation is refused for signaling numbers, and numbers of other forms can only overflow. -/
theorem negate_eq_error {decimal : Decimal} {signal : DecimalSignal}
    (failed : decimal.negate = .error signal) :
    signal = .invalidOperation ∧ decimal.isSignaling = true ∨ signal = .overflow := by
  cases decimal with
  | finite negative coefficient exponent =>
      right
      simp only [negate, rounded] at failed
      split at failed
      · simp at failed
      · split at failed
        · exact (Except.error.inj failed).symm
        · split at failed
          · exact (Except.error.inj failed).symm
          · simp at failed
  | infinity negative => simp [negate] at failed
  | quietNaN negative payload object => simp [negate] at failed
  | signalingNaN negative payload object =>
      left
      exact ⟨(Except.error.inj failed).symm, rfl⟩

end Decimal

namespace Number

variable {left right : Number} {signal : DecimalSignal}

/-- Equality is refused exactly when one of the sides is signaling. -/
theorem equals_eq_error :
    left.equals right = .error signal ↔
      signal = .invalidOperation ∧ (left.isSignaling = true ∨ right.isSignaling = true) := by
  unfold equals
  split
  · rename_i signaling
    simp only [Bool.or_eq_true] at signaling
    constructor
    · intro failed
      exact ⟨(Except.error.inj failed).symm, signaling⟩
    · rintro ⟨rfl, -⟩
      rfl
  · rename_i quiet
    simp only [Bool.or_eq_true] at quiet
    simp [quiet]

/-- Order is refused for a signaling right side only when the left side is a number. -/
theorem compare_eq_error :
    left.compare right = .error signal ↔
      signal = .invalidOperation ∧
        (left.isSignaling = true ∨ left.isNaN = false ∧ right.isSignaling = true) := by
  have refused (reason : Prop) (holds : reason) :
      (Except.error DecimalSignal.invalidOperation : Except DecimalSignal (Option Ordering)) =
        .error signal ↔ signal = .invalidOperation ∧ reason := by
    constructor
    · intro failed
      exact ⟨(Except.error.inj failed).symm, holds⟩
    · rintro ⟨rfl, -⟩
      rfl
  unfold compare
  cases leftSignaling : left.isSignaling with
  | true => exact refused _ (Or.inl rfl)
  | false =>
      cases leftNaN : left.isNaN with
      | true => simp
      | false =>
          cases rightSignaling : right.isSignaling with
          | true => exact refused _ (Or.inr ⟨rfl, rfl⟩)
          | false => cases right.isNaN <;> simp

end Number

end Predicates
