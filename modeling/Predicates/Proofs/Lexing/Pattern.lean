/-
This file describes the lexemes of each class by a regular language, without saying how they are found
in a text.
-/

import Mathlib.Computability.Language
import Predicates.Proofs.Lexing.Writing

namespace Predicates

namespace Lexeme

variable {belongs : Char → Bool} {mark : Char} {text : List Char}

/-- The texts of one character of a kind. -/
def oneOf (belongs : Char → Bool) : Language Char :=
  {text | ∃ character, belongs character = true ∧ text = [character]}

theorem mem_oneOf : text ∈ oneOf belongs ↔ ∃ character, belongs character = true ∧ text = [character] :=
  Iff.rfl

/-- The runs of characters of a kind, of which there is at least one. -/
def several (belongs : Char → Bool) : Language Char :=
  oneOf belongs * KStar.kstar (oneOf belongs)

theorem mem_kstar_oneOf :
    text ∈ KStar.kstar (oneOf belongs) ↔ ∀ character ∈ text, belongs character = true := by
  rw [Language.mem_kstar]
  constructor
  · rintro ⟨parts, rfl, each⟩ character member
    obtain ⟨part, known, inside⟩ := List.mem_flatten.mp member
    obtain ⟨only, belongsOnly, rfl⟩ := each part known
    rwa [List.mem_singleton.mp inside]
  · intro each
    refine ⟨text.map fun character => [character], (List.flatMap_singleton' text).symm, ?_⟩
    intro part member
    obtain ⟨character, known, rfl⟩ := List.mem_map.mp member
    exact ⟨character, each character known, rfl⟩

theorem mem_oneOf_mul {behind : Language Char} :
    text ∈ oneOf belongs * behind ↔
      ∃ first rest, text = first :: rest ∧ belongs first = true ∧ rest ∈ behind := by
  rw [Language.mem_mul]
  constructor
  · rintro ⟨head, ⟨first, belongsFirst, rfl⟩, rest, member, rfl⟩
    exact ⟨first, rest, rfl, belongsFirst, member⟩
  · rintro ⟨first, rest, rfl, belongsFirst, member⟩
    exact ⟨[first], ⟨first, belongsFirst, rfl⟩, rest, member, rfl⟩

theorem mem_several :
    text ∈ several belongs ↔ text ≠ [] ∧ ∀ character ∈ text, belongs character = true := by
  rw [several, mem_oneOf_mul]
  cases text with
  | nil => simp
  | cons first rest => simp [mem_kstar_oneOf]

/-- A text between marks is made of characters other than the mark and the escape mark, and of escape
marks with any character but a line feed behind them. -/
def quotedPart (mark : Char) : Language Char :=
  oneOf (fun character => character ≠ mark && character ≠ Quoted.escapeMark) +
    oneOf (fun character => character = Quoted.escapeMark) * oneOf fun character => character ≠ '\n'

theorem mem_quotedPart : text ∈ quotedPart mark ↔
    (∃ character, character ≠ mark ∧ character ≠ Quoted.escapeMark ∧ text = [character]) ∨
      ∃ escaped, text = [Quoted.escapeMark, escaped] ∧ escaped ≠ '\n' := by
  rw [quotedPart, Language.mem_add, mem_oneOf_mul]
  simp [mem_oneOf, and_assoc]

/-- The parts of a quoted text are those of the writings of any text. -/
theorem mem_kstar_quotedPart :
    text ∈ KStar.kstar (quotedPart mark) ↔ ∃ meaning, IsWriting mark text meaning := by
  rw [Language.mem_kstar]
  constructor
  · rintro ⟨parts, rfl, each⟩
    induction parts with
    | nil => exact ⟨[], .ended⟩
    | cons part parts inductionHypothesis =>
        rw [List.forall_mem_cons] at each
        obtain ⟨meaning, behind⟩ := inductionHypothesis each.2
        rcases mem_quotedPart.mp each.1 with
          ⟨character, notMark, notEscape, rfl⟩ | ⟨escaped, rfl, notFeed⟩
        · exact ⟨_, .raw notMark notEscape behind⟩
        · exact ⟨_, .escape (denotes_iff.mpr ⟨notFeed, rfl⟩) behind⟩
  · rintro ⟨meaning, writing⟩
    induction writing with
    | ended => exact ⟨[], rfl, by simp⟩
    | @raw character body text notMark notEscape behind inductionHypothesis =>
        obtain ⟨parts, rfl, each⟩ := inductionHypothesis
        refine ⟨[character] :: parts, rfl, List.forall_mem_cons.mpr ⟨?_, each⟩⟩
        exact mem_quotedPart.mpr (.inl ⟨character, notMark, notEscape, rfl⟩)
    | @escape escaped character body text denotes behind inductionHypothesis =>
        obtain ⟨parts, rfl, each⟩ := inductionHypothesis
        refine ⟨[Quoted.escapeMark, escaped] :: parts, rfl, List.forall_mem_cons.mpr ⟨?_, each⟩⟩
        exact mem_quotedPart.mpr (.inr ⟨escaped, rfl, (denotes_iff.mp denotes).1⟩)

end Lexeme

open Lexeme

/-- The lexemes of a class, whatever stands around them. -/
def LexemeClass.pattern : LexemeClass → Language Char
  | .blank => several isBlank
  | .token (.fixed first others _) => {first :: others}
  | .token .fraction => several isDecimalDigit * ({['.']} * several isDecimalDigit)
  | .token .whole => several isDecimalDigit
  | .token (.quoted mark) => {[mark]} * (KStar.kstar (quotedPart mark) * {[mark]})
  | .token .word => oneOf startsWord * KStar.kstar (oneOf continuesWord)

namespace LexemeClass

variable {lexeme : List Char} {mark : Char}

theorem mem_pattern_fraction : lexeme ∈ pattern (.token .fraction) ↔
    ∃ whole places, lexeme = whole ++ '.' :: places ∧
      (whole ≠ [] ∧ ∀ character ∈ whole, isDecimalDigit character = true) ∧
      (places ≠ [] ∧ ∀ character ∈ places, isDecimalDigit character = true) := by
  simp only [pattern, Language.mem_mul, mem_several]
  constructor
  · rintro ⟨whole, wholeDigits, _, ⟨_, rfl, places, placesDigits, rfl⟩, rfl⟩
    exact ⟨whole, places, rfl, wholeDigits, placesDigits⟩
  · rintro ⟨whole, places, rfl, wholeDigits, placesDigits⟩
    exact ⟨whole, wholeDigits, _, ⟨['.'], rfl, places, placesDigits, rfl⟩, rfl⟩

theorem mem_pattern_quoted : lexeme ∈ pattern (.token (.quoted mark)) ↔
    ∃ body meaning, lexeme = mark :: body ++ [mark] ∧ IsWriting mark body meaning := by
  simp only [pattern, Language.mem_mul, mem_kstar_quotedPart]
  constructor
  · rintro ⟨_, rfl, _, ⟨body, ⟨meaning, writing⟩, _, rfl, rfl⟩, rfl⟩
    exact ⟨body, meaning, rfl, writing⟩
  · rintro ⟨body, meaning, rfl, writing⟩
    exact ⟨[mark], rfl, body ++ [mark], ⟨body, ⟨meaning, writing⟩, [mark], rfl, rfl⟩, rfl⟩

theorem mem_pattern_word : lexeme ∈ pattern (.token .word) ↔
    ∃ first others, lexeme = first :: others ∧ startsWord first = true ∧
      ∀ character ∈ others, continuesWord character = true := by
  simp only [pattern, mem_oneOf_mul, mem_kstar_oneOf]

/-- Some beginning of the text is a lexeme of the class. -/
def Matches (lexemeClass : LexemeClass) (text : List Char) : Prop :=
  ∃ lexeme rest, text = lexeme ++ rest ∧ lexeme ∈ lexemeClass.pattern

/-- What a class takes is one of its lexemes. -/
theorem mem_pattern_of_take? {lexemeClass : LexemeClass} {text : List Char} {split : Split}
    (taken : lexemeClass.take? text = some split) : split.1 ∈ lexemeClass.pattern := by
  cases lexemeClass with
  | blank =>
      obtain ⟨some, blank, -⟩ := run?_eq_some taken
      exact mem_several.mpr ⟨some, blank⟩
  | token tokenClass =>
      cases tokenClass with
      | fixed first others form => exact (fixed?_append taken).1
      | fraction =>
          obtain ⟨whole, places, same, wholeDigits, placesDigits, -⟩ := fraction?_eq_some taken
          exact mem_pattern_fraction.mpr ⟨whole, places, same, wholeDigits, placesDigits⟩
      | whole =>
          obtain ⟨some, digits, -⟩ := run?_eq_some taken
          exact mem_several.mpr ⟨some, digits⟩
      | quoted mark =>
          obtain ⟨body, same, closed⟩ := quoted?_eq_some taken
          exact mem_pattern_quoted.mpr ⟨body, _, same, .of_quotedBody? (closed [])⟩
      | word =>
          obtain ⟨first, others, same, starts, continues, -⟩ := word?_eq_some taken
          exact mem_pattern_word.mpr ⟨first, others, same, starts, continues⟩

end LexemeClass

end Predicates
