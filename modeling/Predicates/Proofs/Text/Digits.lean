/-
This file shows that the decimal digits of a number are read as that number.
-/

import Predicates.Text.DecimalDigit
import Mathlib.Algebra.Order.Ring.Nat
import Mathlib.Data.List.Induction
import Mathlib.Data.Nat.Digits.Defs
import Mathlib.Tactic.Ring

namespace Predicates

/-- A property of the basic Latin characters is checked for each of their codes. -/
theorem holds_of_basicLatin (holds : Char → Prop) {character : Char}
    (basic : character.toNat < 128) (checked : ∀ code < 128, holds (Char.ofNat code)) :
    holds character := by
  have found := checked character.toNat basic
  rwa [Char.ofNat_toNat] at found

theorem toNat_lt_of_isDigit {character : Char} (digit : character.isDigit = true) :
    character.toNat < 128 := by
  have range := (Char.isDigit_iff_toNat.mp digit).2
  exact Nat.lt_of_le_of_lt range (by decide)

/-- A digit of the basic Latin block counts its distance from zero. -/
theorem digitValue?_digitChar {digit : Nat} (small : digit < 10) :
    digitValue? digit.digitChar = some digit := by
  have checked : ∀ digit < 10, digitValue? digit.digitChar = some digit := by decide
  exact checked digit small

theorem isDecimalDigit_of_isDigit {character : Char} (digit : character.isDigit = true) :
    isDecimalDigit character = true := by
  have checked : ∀ code < 128, (Char.ofNat code).isDigit = true →
      isDecimalDigit (Char.ofNat code) = true := by decide
  exact holds_of_basicLatin (fun character => character.isDigit = true →
    isDecimalDigit character = true) (toNat_lt_of_isDigit digit) checked digit

/-- A property of the decimal digits is checked for the ten digits behind each zero. -/
theorem holds_of_isDecimalDigit (holds : Char → Prop) {character : Char}
    (digit : isDecimalDigit character = true)
    (checked : ∀ start ∈ digitZeros, ∀ distance < 10, holds (Char.ofNat (start + distance))) :
    holds character := by
  obtain ⟨value, found⟩ := Option.isSome_iff_exists.mp digit
  obtain ⟨start, same, -⟩ := Option.map_eq_some_iff.mp found
  have range := List.find?_some same
  simp only [Bool.and_eq_true, decide_eq_true_eq] at range
  have distance : character.toNat - start < 10 := by omega
  have reached : start + (character.toNat - start) = character.toNat := by omega
  have held := checked start (List.mem_of_find?_eq_some same) _ distance
  rwa [reached, Char.ofNat_toNat] at held

theorem digitValue?_lt {character : Char} {value : Nat}
    (found : digitValue? character = some value) :
    value < 10 := by
  obtain ⟨start, same, rfl⟩ := Option.map_eq_some_iff.mp found
  have range := List.find?_some same
  simp only [Bool.and_eq_true, decide_eq_true_eq] at range
  omega

theorem digitsValue_append_singleton (digits : List Char) (last : Char) :
    digitsValue (digits ++ [last]) = 10 * digitsValue digits + (digitValue? last).getD 0 := by
  rw [digitsValue, List.foldl_append]
  rfl

theorem digitsValue_append (left right : List Char) :
    digitsValue (left ++ right) = digitsValue left * 10 ^ right.length + digitsValue right := by
  induction right using List.reverseRecOn with
  | nil => simp [digitsValue]
  | append_singleton right last inductionHypothesis =>
      rw [← List.append_assoc, digitsValue_append_singleton, digitsValue_append_singleton,
        inductionHypothesis, List.length_append, List.length_singleton, Nat.pow_succ]
      ring

/-- Digits write a number with at most as many places. -/
theorem digitsValue_lt (digits : List Char) : digitsValue digits < 10 ^ digits.length := by
  induction digits using List.reverseRecOn with
  | nil => exact Nat.one_pos
  | append_singleton digits last inductionHypothesis =>
      have small : (digitValue? last).getD 0 < 10 := by
        cases found : digitValue? last with
        | none => decide
        | some value => exact digitValue?_lt found
      rw [digitsValue_append_singleton, List.length_append, List.length_singleton, Nat.pow_succ]
      omega

theorem digitsValue_zeros (count : Nat) : digitsValue (List.replicate count '0') = 0 := by
  induction count with
  | zero => rfl
  | succ count inductionHypothesis =>
      rw [List.replicate_succ', digitsValue_append_singleton, inductionHypothesis]
      decide

/-- The digits of a number are read as the number. -/
theorem digitsValue_toDigits (value : Nat) : digitsValue (Nat.toDigits 10 value) = value := by
  induction value using Nat.strongRecOn with
  | ind value inductionHypothesis =>
      rcases Nat.lt_or_ge value 10 with single | several
      · rw [Nat.toDigits_of_lt_base single]
        have one := digitsValue_append_singleton [] value.digitChar
        rw [digitValue?_digitChar single] at one
        simpa [digitsValue] using one
      · have remainder := Nat.mod_lt value (show 0 < 10 by decide)
        rw [Nat.toDigits_of_base_le (by decide) several, digitsValue_append_singleton,
          inductionHypothesis _ (Nat.div_lt_self (by omega) (by decide)),
          digitValue?_digitChar remainder]
        exact Nat.div_add_mod value 10

end Predicates
