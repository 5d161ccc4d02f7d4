/-
This file shows that a lexeme keeps its meaning when something else follows it, as long as that is no
part of the lexeme.
-/

import Predicates.Proofs.Lexing.Composition

namespace Predicates

namespace Lexeme

variable {text : List Char} {split : Split} {mark : Char}

/-- The body of a quoted text does not depend on what follows its closing mark. -/
theorem quotedBody?_closed (found : quotedBody? mark text = some split) (rest : List Char) :
    quotedBody? mark (split.1 ++ mark :: rest) = some (split.1, rest) := by
  fun_induction quotedBody? mark text generalizing split with
  | case1 => cases found
  | case2 =>
      cases found
      exact quotedBody?_closing mark rest
  | case3 => cases found
  | case4 => cases found
  | case5 escaped behind notFeed notMark inductionHypothesis =>
      obtain ⟨inner, foundInner, rfl⟩ := Option.map_eq_some_iff.mp found
      rw [List.cons_append, List.cons_append, quotedBody?_escape notMark notFeed,
        inductionHypothesis foundInner]
      rfl
  | case6 character behind notMark notEscape inductionHypothesis =>
      obtain ⟨inner, foundInner, rfl⟩ := Option.map_eq_some_iff.mp found
      rw [List.cons_append, quotedBody?_plain notMark notEscape, inductionHypothesis foundInner]
      rfl

/-- A quoted text has a mark at both ends, and none closes it in between. -/
theorem quoted?_eq_some (found : quoted? mark text = some split) :
    ∃ body, split.1 = mark :: body ++ [mark] ∧
      ∀ rest, quotedBody? mark (body ++ mark :: rest) = some (body, rest) := by
  cases text with
  | nil => cases found
  | cons character text =>
      simp only [quoted?] at found
      split at found
      · obtain ⟨inner, foundInner, rfl⟩ := Option.map_eq_some_iff.mp found
        exact ⟨inner.1, rfl, quotedBody?_closed foundInner⟩
      · cases found

theorem word?_eq_some (found : word? text = some split) :
    ∃ first others, split.1 = first :: others ∧ startsWord first = true ∧
      (∀ character ∈ others, continuesWord character = true) ∧ TokenClass.word.Apart split.2 := by
  cases text with
  | nil => cases found
  | cons first text =>
      simp only [word?] at found
      split at found
      · rename_i starts
        cases found
        exact ⟨first, _, rfl, starts, fun character => List.mem_takeWhile_imp,
          outside_of_dropWhile continuesWord text⟩
      · cases found

theorem fraction?_eq_some (found : fraction? text = some split) :
    ∃ whole places, split.1 = whole ++ '.' :: places ∧
      (whole ≠ [] ∧ ∀ character ∈ whole, isDecimalDigit character = true) ∧
      (places ≠ [] ∧ ∀ character ∈ places, isDecimalDigit character = true) ∧
      TokenClass.fraction.Apart split.2 := by
  unfold fraction? at found
  split at found
  · rename_i whole point afterPoint foundWhole
    split at found
    · rename_i isPoint
      obtain ⟨inner, foundPlaces, rfl⟩ := Option.map_eq_some_iff.mp found
      obtain ⟨wholeSome, wholeDecimal, -⟩ := run?_eq_some foundWhole
      obtain ⟨placesSome, placesDecimal, apart⟩ := run?_eq_some foundPlaces
      exact ⟨whole, inner.1, by rw [isPoint], ⟨wholeSome, wholeDecimal⟩,
        ⟨placesSome, placesDecimal⟩, apart⟩
    · cases found
  · cases found

end Lexeme

section Neighbours

variable {tokenClass : TokenClass} {lexeme rest behind : List Char}

/-- A lexeme is read again before any text that is no part of it. -/
theorem LexemeClass.first?_before
    (found : first? (lexeme ++ rest) = some (.token tokenClass, (lexeme, rest)))
    (apart : tokenClass.Apart behind) :
    first? (lexeme ++ behind) = some (.token tokenClass, (lexeme, behind)) := by
  have known := mem_all_of_first? found
  have taken := take?_of_first? found
  -- Each class is read again by its own lemma, from what it took and not from the rest of the text.
  cases tokenClass with
  | fixed first others form =>
      obtain rfl : lexeme = first :: others := (Lexeme.fixed?_append taken).1
      exact Lexeme.first?_fixed known apart
  | fraction =>
      obtain ⟨whole, places, rfl, ⟨wholeSome, wholeDecimal⟩, ⟨placesSome, placesDecimal⟩, -⟩ :=
        Lexeme.fraction?_eq_some taken
      exact Lexeme.first?_fraction wholeSome wholeDecimal placesSome placesDecimal apart
  | whole =>
      have stands := Lexeme.first?_whole_iff.mp found
      exact Lexeme.first?_whole ⟨stands.some, stands.decimal, apart.1, apart.2⟩
  | quoted mark =>
      obtain ⟨body, rfl, closed⟩ := Lexeme.quoted?_eq_some taken
      exact Lexeme.first?_quoted known (closed behind)
  | word =>
      obtain ⟨first, others, rfl, starts, continues, -⟩ := Lexeme.word?_eq_some taken
      exact Lexeme.first?_word starts continues apart

/-- What follows a lexeme is no part of it. -/
theorem LexemeClass.apart_of_first?
    (found : first? (lexeme ++ rest) = some (.token tokenClass, (lexeme, rest))) :
    tokenClass.Apart rest := by
  have taken := take?_of_first? found
  cases tokenClass with
  | fixed first others form =>
      obtain rfl : lexeme = first :: others := (Lexeme.fixed?_append taken).1
      cases others with
      | nil =>
          rintro longer known character member rfl
          obtain ⟨rest, rfl⟩ := List.head?_eq_some_iff.mp member
          -- With the equality sign behind it, the longer sign would have been read.
          have other : first? (first :: ['='] ++ rest) =
              some (.token (.fixed first ['='] longer), (first :: ['='], rest)) :=
            Lexeme.first?_fixed known trivial
          have same := found.symm.trans other
          cases same
      | cons second others => trivial
  | fraction =>
      obtain ⟨whole, places, -, -, -, apart⟩ := Lexeme.fraction?_eq_some taken
      exact apart
  | whole =>
      have stands := Lexeme.first?_whole_iff.mp found
      exact ⟨stands.ended, stands.noPlaces⟩
  | quoted mark => trivial
  | word =>
      obtain ⟨first, others, -, -, -, apart⟩ := Lexeme.word?_eq_some taken
      exact apart

end Neighbours

namespace TokenForm.IsReadAs

variable {form other : TokenForm} {lexeme rest behind : List Char}

theorem before (read : form.IsReadAs lexeme rest) (ends : Lexeme.Ends behind) :
    form.IsReadAs lexeme behind := by
  obtain ⟨tokenClass, found, formed⟩ := read
  exact ⟨tokenClass, LexemeClass.first?_before found (ends.apart tokenClass), formed⟩

/-- A break that is added to the end of the text leaves its lexemes alone. -/
theorem append_breaks {more : List Char} (read : form.IsReadAs lexeme rest)
    (breaks : Lexeme.Breaks more) : form.IsReadAs lexeme (rest ++ more) := by
  obtain ⟨tokenClass, found, formed⟩ := read
  have apart := Lexeme.apart_append (LexemeClass.apart_of_first? found) breaks
  exact ⟨tokenClass, LexemeClass.first?_before found apart, formed⟩

/-- A lexeme is read as one token only. -/
theorem unique (read : form.IsReadAs lexeme rest) (again : other.IsReadAs lexeme rest) :
    form = other := by
  obtain ⟨tokenClass, found, formed⟩ := read
  obtain ⟨otherClass, foundAgain, formedAgain⟩ := again
  rw [found] at foundAgain
  cases foundAgain
  exact Option.some.inj (formed.symm.trans formedAgain)

end TokenForm.IsReadAs

/-- Two texts with a break between them consist of the lexemes of both. -/
theorem ConsistsOf.append {text more : List Char} {words others : List (List Char × TokenForm)}
    (consists : ConsistsOf text words) (breaks : Lexeme.Breaks more) (behind : ConsistsOf more others) :
    ConsistsOf (text ++ more) (words ++ others) := by
  induction consists with
  | ended => exact behind
  | gap some blank ended rest inductionHypothesis =>
      rw [List.append_assoc]
      exact inductionHypothesis.behind_gap blank
  | word read rest inductionHypothesis =>
      rw [List.append_assoc]
      exact .word (read.append_breaks breaks) inductionHypothesis

end Predicates
