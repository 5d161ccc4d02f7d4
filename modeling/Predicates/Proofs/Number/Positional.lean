/-
This file shows that a notation keeps its value when it is written without an exponent.
-/

import Predicates.Expression.Lexeme
import Predicates.Proofs.Number.DecimalNotation
import Predicates.Proofs.Printing.Printer
import Predicates.Proofs.Text.Digits

namespace Predicates

/-- Digits on both sides of a point write a value. -/
structure PointDigits (whole places : List Char) (value : ℚ) : Prop where
  wholeSome : whole ≠ []
  placesSome : places ≠ []
  wholeDigits : ∀ character ∈ whole, character.isDigit = true
  placesDigits : ∀ character ∈ places, character.isDigit = true
  valued : notationValue (digitsValue (whole ++ places)) (-(places.length : Int)) = value

theorem isDigit_of_mem_zeros {count : Nat} {character : Char}
    (member : character ∈ List.replicate count '0') : character.isDigit = true := by
  rw [List.eq_of_mem_replicate member]
  decide

section Positional

variable {digits : List Char} {exponent : Int}

/-- Zeros stand between the point and the digits. -/
theorem pointDigits_below (some : digits ≠ [])
    (allDigits : ∀ character ∈ digits, character.isDigit = true)
    (below : (digits.length : Int) + exponent ≤ 0) :
    PointDigits ['0'] (List.replicate (-(digits.length + exponent)).toNat '0' ++ digits)
      (notationValue (digitsValue digits) exponent) where
  wholeSome := by simp
  placesSome := by simp [some]
  wholeDigits character member := @isDigit_of_mem_zeros 1 character member
  placesDigits character member :=
    (List.mem_append.mp member).elim isDigit_of_mem_zeros (allDigits character)
  valued := by
    have value : digitsValue (['0'] ++ (List.replicate (-(digits.length + exponent)).toNat '0' ++
        digits)) = digitsValue digits := by
      rw [← List.append_assoc, ← List.replicate_one, List.replicate_append_replicate,
        digitsValue_append, digitsValue_zeros, Nat.zero_mul, Nat.zero_add]
    have place : -(((List.replicate (-(digits.length + exponent)).toNat '0' ++
        digits).length : Nat) : Int) = exponent := by
      rw [List.length_append, List.length_replicate]
      omega
    rw [value, place]

/-- Zeros stand between the digits and the point. -/
theorem pointDigits_above (some : digits ≠ [])
    (allDigits : ∀ character ∈ digits, character.isDigit = true)
    (above : (digits.length : Int) ≤ digits.length + exponent) :
    PointDigits (digits ++ List.replicate (digits.length + exponent - digits.length).toNat '0') ['0']
      (notationValue (digitsValue digits) exponent) where
  wholeSome := by simp [some]
  placesSome := by simp
  wholeDigits character member :=
    (List.mem_append.mp member).elim (allDigits character) isDigit_of_mem_zeros
  placesDigits character member := @isDigit_of_mem_zeros 1 character member
  valued := by
    have place : (((digits.length + exponent - digits.length).toNat + 1 : Nat) : Int) +
        -((['0'].length : Nat) : Int) = exponent := by
      rw [List.length_singleton]
      omega
    rw [List.append_assoc, ← List.replicate_one, List.replicate_append_replicate,
      digitsValue_append, digitsValue_zeros, List.length_replicate, Nat.add_zero,
      notationValue_mul_pow]
    exact congrArg _ place

/-- The point stands among the digits. -/
theorem pointDigits_inside (allDigits : ∀ character ∈ digits, character.isDigit = true)
    (notBelow : ¬(digits.length : Int) + exponent ≤ 0)
    (notAbove : ¬(digits.length : Int) ≤ digits.length + exponent) :
    PointDigits (digits.take (digits.length + exponent).toNat)
      (digits.drop (digits.length + exponent).toNat)
      (notationValue (digitsValue digits) exponent) where
  wholeSome := by
    apply List.ne_nil_of_length_pos
    rw [List.length_take]
    omega
  placesSome := by
    apply List.ne_nil_of_length_pos
    rw [List.length_drop]
    omega
  wholeDigits character member := allDigits character (List.mem_of_mem_take member)
  placesDigits character member := allDigits character (List.mem_of_mem_drop member)
  valued := by
    rw [List.take_append_drop, List.length_drop]
    congr 1
    omega

end Positional

/-- Every notation can be written with a point. -/
theorem notationText_eq (coefficient : Nat) (exponent : Int) :
    ∃ whole places, notationText coefficient exponent = whole ++ '.' :: places ∧
      PointDigits whole places (notationValue coefficient exponent) := by
  have some : Nat.toDigits 10 coefficient ≠ [] := List.ne_nil_of_length_pos Nat.length_toDigits_pos
  have allDigits (character) (member : character ∈ Nat.toDigits 10 coefficient) :
      character.isDigit = true := Nat.isDigit_of_mem_toDigits (by decide) (by decide) member
  have value := digitsValue_toDigits coefficient
  unfold notationText Binary64.positionalText Binary64.zeros
  dsimp only
  generalize Nat.toDigits 10 coefficient = digits at *
  subst value
  split
  · rename_i below
    exact ⟨_, _, rfl, pointDigits_below some allDigits below⟩
  · rename_i notBelow
    split
    · rename_i above
      exact ⟨_, _, by simp, pointDigits_above some allDigits above⟩
    · rename_i notAbove
      exact ⟨_, _, rfl, pointDigits_inside allDigits notBelow notAbove⟩

namespace Lexeme

variable {whole places rest : List Char} {value : ℚ}

/-- A run ends before the first character of another kind. -/
theorem span_run {belongs : Char → Bool} {taken rest : List Char}
    (inside : ∀ character ∈ taken, belongs character = true)
    (ends : ∀ character ∈ rest.head?, belongs character = false) :
    (taken ++ rest).takeWhile belongs = taken ∧ (taken ++ rest).dropWhile belongs = rest := by
  rw [List.takeWhile_append_of_pos inside, List.dropWhile_append_of_pos inside]
  cases rest with
  | nil => simp
  | cons character rest => simp [ends character rfl]

theorem point_ends (rest : List Char) :
    ∀ character ∈ ('.' :: rest).head?, isDecimalDigit character = false := by
  intro character member
  cases member
  decide

/-- The digits on both sides of the point are read as one notation. -/
theorem fractionValue_eq (written : PointDigits whole places value) :
    fractionValue (whole ++ '.' :: places) =
      Binary64.ofDecimalNotation false (digitsValue (whole ++ places)) (-(places.length : Int)) := by
  have wholeDigits (character) (member : character ∈ whole) : isDecimalDigit character = true :=
    isDecimalDigit_of_isDigit (written.wholeDigits character member)
  have parts := span_run wholeDigits (point_ends places)
  rw [fractionValue, parts.1, parts.2]
  rfl

end Lexeme

/-- A finite magnitude and infinity are read back from their texts. -/
theorem Binary64.exists_spelled {value : Binary64}
    (readable : value = .infinity false ∨ ∃ magnitude, value = .finite false magnitude) :
    ∃ whole places decimal, value.spelled = whole ++ '.' :: places ∧
      PointDigits whole places decimal ∧ Lexeme.fractionValue (whole ++ '.' :: places) = value := by
  rcases readable with rfl | ⟨magnitude, rfl⟩
  · obtain ⟨whole, places, split, written⟩ := notationText_eq 1 309
    refine ⟨whole, places, _, split, written, ?_⟩
    have past : magnitudeCount ≤ nearestNotation 1 309 := by decide +kernel
    rw [Lexeme.fractionValue_eq written, ofDecimalNotation_eq, nearestNotation_congr written.valued,
      ofMagnitude, dif_neg (Nat.not_lt.mpr past)]
  · obtain ⟨whole, places, split, written⟩ :=
      notationText_eq (shortestNotation magnitude).1 (shortestNotation magnitude).2
    refine ⟨whole, places, _, split, written, ?_⟩
    rw [Lexeme.fractionValue_eq written, ofDecimalNotation_eq, ofMagnitude_eq_finite,
      nearestNotation_congr written.valued, nearestNotation_shortest]

end Predicates
