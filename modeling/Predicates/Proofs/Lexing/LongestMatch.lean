/-
This file shows that the first class that takes anything takes the longest lexeme of all classes, so the
cursor reads what a reader without any order of the classes would read.
-/

import Predicates.Proofs.Lexing.Pattern

namespace Predicates

namespace Lexeme

variable {belongs : Char → Bool} {taken : List Char}

/-- A run goes on as long as the text behind it does. -/
theorem run?_extended (some : taken ≠ [])
    (inside : ∀ character ∈ taken, belongs character = true) (rest : List Char) :
    run? belongs (taken ++ rest) =
      .some (taken ++ rest.takeWhile belongs, rest.dropWhile belongs) := by
  have joined : taken ++ rest = (taken ++ rest.takeWhile belongs) ++ rest.dropWhile belongs := by
    rw [List.append_assoc, List.takeWhile_append_dropWhile]
  rw [joined]
  refine run?_append_of_ends (List.append_ne_nil_of_left_ne_nil some _) ?_
    (outside_of_dropWhile belongs rest)
  exact List.forall_mem_append.mpr ⟨inside, fun character => List.mem_takeWhile_imp⟩

theorem fixed?_append_rest (spelling rest : List Char) :
    fixed? spelling (spelling ++ rest) = some (spelling, rest) := by
  induction spelling with
  | nil => rfl
  | cons first others inductionHypothesis => simp [fixed?, inductionHypothesis]

/-- An escape mark forms a pair with the character behind it, and any other character stands alone. -/
def escapeUnits : List Char → List (List Char)
  | [] => []
  | [character] => [[character]]
  | character :: next :: rest =>
    if character = Quoted.escapeMark then [character, next] :: escapeUnits rest
    else [character] :: escapeUnits (next :: rest)

theorem escapeUnits_plain {character : Char} (plain : character ≠ Quoted.escapeMark)
    (rest : List Char) : escapeUnits (character :: rest) = [character] :: escapeUnits rest := by
  cases rest with
  | nil => rfl
  | cons next rest => rw [escapeUnits, if_neg plain]

/-- The mark behind a writing is the first that stands alone. -/
theorem IsWriting.escapeUnits_eq {mark : Char} {body text : List Char}
    (writing : IsWriting mark body text) (notEscape : Quoted.escapeMark ≠ mark)
    (rest : List Char) :
    ∃ units, escapeUnits (body ++ mark :: rest) = units ++ [mark] :: escapeUnits rest ∧
      [mark] ∉ units ∧ units.flatten = body := by
  induction writing with
  | ended => exact ⟨[], escapeUnits_plain notEscape.symm rest, List.not_mem_nil, rfl⟩
  | @raw character body text notMark plain behind inductionHypothesis =>
      obtain ⟨units, split, first, same⟩ := inductionHypothesis
      refine ⟨[character] :: units, ?_, ?_, ?_⟩
      · rw [List.cons_append, escapeUnits_plain plain, split, List.cons_append]
      · simp [first, notMark.symm]
      · rw [List.flatten_cons, same, List.singleton_append]
  | @escape escaped character body text denotes behind inductionHypothesis =>
      obtain ⟨units, split, first, same⟩ := inductionHypothesis
      refine ⟨[Quoted.escapeMark, escaped] :: units, ?_, ?_, ?_⟩
      · rw [List.cons_append, List.cons_append, escapeUnits, if_pos rfl, split, List.cons_append]
      · simp [first]
      · rw [List.flatten_cons, same]
        rfl

end Lexeme

open Lexeme

namespace LexemeClass

variable {lexemeClass : LexemeClass} {lexeme rest text : List Char} {split : Split}

/-- Each class takes the longest of its own lexemes. -/
theorem take?_of_pattern (known : lexemeClass ∈ all) (member : lexeme ∈ lexemeClass.pattern)
    (rest : List Char) :
    ∃ split, lexemeClass.take? (lexeme ++ rest) = some split ∧
      lexeme.length ≤ split.1.length := by
  cases lexemeClass with
  | blank =>
      obtain ⟨some, blank⟩ := mem_several.mp member
      exact ⟨_, run?_extended some blank rest, by simp⟩
  | token tokenClass =>
      cases tokenClass with
      | fixed first others form =>
          obtain rfl : lexeme = first :: others := member
          exact ⟨_, fixed?_append_rest (first :: others) rest, Nat.le_refl _⟩
      | fraction =>
          obtain ⟨whole, places, rfl, ⟨wholeSome, wholeDigits⟩, placesSome, placesDigits⟩ :=
            mem_pattern_fraction.mp member
          have wholeRead :=
            run?_append_of_ends wholeSome wholeDigits (point_ends (places ++ rest))
          have placesRead := run?_extended placesSome placesDigits rest
          refine ⟨(whole ++ '.' :: (places ++ rest.takeWhile isDecimalDigit),
            rest.dropWhile isDecimalDigit), ?_, by simp⟩
          rw [List.append_assoc, List.cons_append, take?, TokenClass.take?, fraction?, wholeRead]
          simp only [if_true, placesRead, Option.map_some]
      | whole =>
          obtain ⟨some, digits⟩ := mem_several.mp member
          exact ⟨_, run?_extended some digits rest, by simp⟩
      | quoted mark =>
          obtain ⟨body, meaning, rfl, writing⟩ := mem_pattern_quoted.mp member
          have closed := writing.quotedBody?_eq (escapeMark_ne (quoted_mem_all.mp known)) rest
          refine ⟨(mark :: body ++ [mark], rest), ?_, Nat.le_refl _⟩
          rw [List.cons_append, List.cons_append, List.append_assoc, List.singleton_append, take?,
            TokenClass.take?, quoted?, if_pos rfl, closed]
          rfl
      | word =>
          obtain ⟨first, others, rfl, starts, continues⟩ := mem_pattern_word.mp member
          refine ⟨(first :: (others ++ rest.takeWhile continuesWord),
            rest.dropWhile continuesWord), ?_, by simp⟩
          rw [List.cons_append, take?, TokenClass.take?, word?, if_pos starts,
            List.takeWhile_append_of_pos continues, List.dropWhile_append_of_pos continues]

theorem exists_take?_of_matches (known : lexemeClass ∈ all)
    (found : lexemeClass.Matches text) : ∃ split, lexemeClass.take? text = some split := by
  obtain ⟨lexeme, rest, rfl, member⟩ := found
  obtain ⟨split, taken, -⟩ := take?_of_pattern known member rest
  exact ⟨split, taken⟩

theorem matches_of_take? (taken : lexemeClass.take? text = some split) :
    lexemeClass.Matches text :=
  ⟨split.1, split.2, (take?_append taken).1.symm, mem_pattern_of_take? taken⟩

/-- A lexeme of a token is read where what follows it is no part of it. -/
theorem first?_of_apart {tokenClass : TokenClass} (known : .token tokenClass ∈ all)
    (member : lexeme ∈ pattern (.token tokenClass)) (apart : tokenClass.Apart rest) :
    first? (lexeme ++ rest) = some (.token tokenClass, (lexeme, rest)) := by
  cases tokenClass with
  | fixed first others form =>
      obtain rfl : lexeme = first :: others := member
      exact first?_fixed known apart
  | fraction =>
      obtain ⟨whole, places, rfl, ⟨wholeSome, wholeDigits⟩, placesSome, placesDigits⟩ :=
        mem_pattern_fraction.mp member
      exact first?_fraction wholeSome wholeDigits placesSome placesDigits apart
  | whole =>
      obtain ⟨some, digits⟩ := mem_several.mp member
      exact first?_whole ⟨some, digits, apart.1, apart.2⟩
  | quoted mark =>
      obtain ⟨body, meaning, rfl, writing⟩ := mem_pattern_quoted.mp member
      exact first?_quoted known
        (writing.quotedBody?_eq (escapeMark_ne (quoted_mem_all.mp known)) rest)
  | word =>
      obtain ⟨first, others, rfl, starts, continues⟩ := mem_pattern_word.mp member
      exact first?_word starts continues apart

/-- Whatever a class takes, the first class that takes anything takes at least as much. -/
theorem first?_of_take? (known : lexemeClass ∈ all) (taken : lexemeClass.take? text = some split) :
    ∃ best found, first? text = some (best, found) ∧ split.1.length ≤ found.1.length := by
  obtain ⟨rfl, -⟩ := take?_append taken
  obtain ⟨lexeme, rest⟩ := split
  cases lexemeClass with
  | blank =>
      have order : all = [] ++ .blank :: all.drop 1 := rfl
      exact ⟨_, _, first?_of_split order (by simp) taken, Nat.le_refl _⟩
  | token tokenClass =>
      by_cases apart : tokenClass.Apart rest
      · exact ⟨_, _, first?_of_apart known (mem_pattern_of_take? taken) apart, Nat.le_refl _⟩
      -- Only a sign with an equality sign behind it and digits with a point and a digit behind them
      -- are the beginning of a longer lexeme.
      cases tokenClass with
      | fixed first others form =>
          obtain rfl : lexeme = first :: others := (fixed?_append taken).1
          cases others with
          | cons second others => exact absurd trivial apart
          | nil =>
              simp only [TokenClass.Apart, not_forall, not_not] at apart
              obtain ⟨longer, longerKnown, character, member, rfl⟩ := apart
              obtain ⟨behind, rfl⟩ := List.head?_eq_some_iff.mp member
              have read : first? (first :: ['='] ++ behind) =
                  some (.token (.fixed first ['='] longer), (first :: ['='], behind)) :=
                first?_fixed longerKnown trivial
              exact ⟨_, _, read, by simp⟩
      | fraction =>
          obtain ⟨whole, places, -, -, -, ended⟩ := fraction?_eq_some taken
          exact absurd ended apart
      | whole =>
          obtain ⟨some, digits, ended⟩ := run?_eq_some taken
          simp only [TokenClass.Apart, not_and, not_forall, Bool.not_eq_false] at apart
          obtain ⟨places, rfl, character, member, digit⟩ := apart ended
          obtain ⟨behind, rfl⟩ := List.head?_eq_some_iff.mp member
          have placesDigits : ∀ place ∈ character :: behind.takeWhile isDecimalDigit,
              isDecimalDigit place = true :=
            List.forall_mem_cons.mpr ⟨digit, fun place => List.mem_takeWhile_imp⟩
          have read := first?_fraction some digits (List.cons_ne_nil _ _) placesDigits
            (outside_of_dropWhile isDecimalDigit behind)
          rw [List.append_assoc, List.cons_append, List.cons_append,
            List.takeWhile_append_dropWhile] at read
          exact ⟨_, _, read, by simp⟩
      | quoted mark => exact absurd trivial apart
      | word =>
          obtain ⟨first, others, -, -, -, ended⟩ := word?_eq_some taken
          exact absurd ended apart

/-- A lexeme that stands alone is read as one of its class. -/
theorem first?_of_pattern (known : lexemeClass ∈ all) (member : lexeme ∈ lexemeClass.pattern) :
    first? lexeme = some (lexemeClass, (lexeme, [])) := by
  cases lexemeClass with
  | blank =>
      obtain ⟨some, blank⟩ := mem_several.mp member
      have read : first? (lexeme ++ []) = .some (.blank, (lexeme, [])) :=
        first?_blank_iff.mpr ⟨some, blank, by simp⟩
      rwa [List.append_nil] at read
  | token tokenClass =>
      have ends : Ends [] := by simp [Ends]
      have read := first?_of_apart known member (ends.apart tokenClass)
      rwa [List.append_nil] at read

/-- No lexeme belongs to two classes. -/
theorem eq_of_mem_pattern {other : LexemeClass} (known : lexemeClass ∈ all)
    (otherKnown : other ∈ all) (member : lexeme ∈ lexemeClass.pattern)
    (otherMember : lexeme ∈ other.pattern) : lexemeClass = other := by
  have read := first?_of_pattern known member
  rw [first?_of_pattern otherKnown otherMember] at read
  cases read
  rfl

/-- The text starts with a lexeme of the class, and with no longer lexeme of any class. -/
structure IsLongest (text : List Char) (lexemeClass : LexemeClass) (lexeme rest : List Char) :
    Prop where
  known : lexemeClass ∈ all
  split : text = lexeme ++ rest
  member : lexeme ∈ lexemeClass.pattern
  longest : ∀ other ∈ all, ∀ longer behind, text = longer ++ behind → longer ∈ other.pattern →
    longer.length ≤ lexeme.length

/-- The lexeme that is read is the longest one. -/
theorem first?_eq_some_iff :
    first? text = some (lexemeClass, (lexeme, rest)) ↔ IsLongest text lexemeClass lexeme rest := by
  have atLeast {other : LexemeClass} {longer behind : List Char} (known : other ∈ all)
      (split : text = longer ++ behind) (member : longer ∈ other.pattern) :
      ∃ best found, first? text = some (best, found) ∧ longer.length ≤ found.1.length := by
    subst split
    obtain ⟨own, taken, ownLength⟩ := take?_of_pattern known member behind
    obtain ⟨best, found, read, length⟩ := first?_of_take? known taken
    exact ⟨best, found, read, Nat.le_trans ownLength length⟩
  constructor
  · intro read
    have taken := take?_of_first? read
    refine ⟨mem_all_of_first? read, (take?_append taken).1.symm, mem_pattern_of_take? taken, ?_⟩
    intro other known longer behind split member
    obtain ⟨best, found, again, length⟩ := atLeast known split member
    rw [read] at again
    cases again
    exact length
  · intro longest
    obtain ⟨best, found, read, length⟩ := atLeast longest.known longest.split longest.member
    have taken := take?_of_first? read
    have joined := (take?_append taken).1
    have bestKnown := mem_all_of_first? read
    have bestMember := mem_pattern_of_take? taken
    have most := longest.longest best bestKnown found.1 found.2 joined.symm bestMember
    have parts := List.append_inj (joined.trans longest.split) (by omega)
    rw [read, ← parts.2]
    rw [parts.1] at bestMember
    rw [eq_of_mem_pattern bestKnown longest.known bestMember longest.member, ← parts.1]

theorem first?_eq_none_iff :
    first? text = none ↔ ∀ lexemeClass ∈ all, ¬ lexemeClass.Matches text := by
  constructor
  · intro unread lexemeClass known found
    obtain ⟨split, taken⟩ := exists_take?_of_matches known found
    obtain ⟨best, read, some, -⟩ := first?_of_take? known taken
    rw [unread] at some
    cases some
  · intro foreign
    rw [first?, List.findSome?_eq_none_iff]
    intro lexemeClass known
    rw [Option.map_eq_none_iff]
    by_contra taken
    obtain ⟨split, some⟩ := Option.ne_none_iff_exists'.mp taken
    exact foreign lexemeClass known (matches_of_take? some)

end LexemeClass

/-- This reader takes the longest lexeme at each place and passes over the blanks. It knows no order of
the classes. -/
inductive Cursor.Munches : Cursor → Except ScanError Token → Cursor → Prop where
  | ended (location : Location) : Munches ⟨[], location⟩ (.ok ⟨.stop, location⟩) ⟨[], location⟩
  | character {character : Char} {rest : List Char} (location : Location)
      (foreign : ∀ lexemeClass ∈ LexemeClass.all, ¬ lexemeClass.Matches (character :: rest)) :
      Munches ⟨character :: rest, location⟩ (.error (.unexpectedCharacter character location))
        ⟨character :: rest, location⟩
  | blank {cursor after : Cursor} {gap rest : List Char} {outcome : Except ScanError Token}
      (longest : LexemeClass.IsLongest cursor.rest .blank gap rest)
      (behind : Munches ⟨rest, cursor.location.advance gap⟩ outcome after) :
      Munches cursor outcome after
  | token {cursor : Cursor} {tokenClass : TokenClass} {lexeme rest : List Char}
      (longest : LexemeClass.IsLongest cursor.rest (.token tokenClass) lexeme rest) :
      Munches cursor (cursor.tokenOf tokenClass lexeme) ⟨rest, cursor.location.advance lexeme⟩

namespace Cursor

/-- The longest lexemes are those that the cursor reads. -/
theorem munches_next (cursor : Cursor) : Munches cursor cursor.next.1 cursor.next.2 := by
  induction cursor using lexemeInduction with
  | ended cursor found =>
      rw [next_of_none found]
      rcases cursor with ⟨rest, location⟩
      cases rest with
      | nil => exact .ended location
      | cons character rest => exact .character location (LexemeClass.first?_eq_none_iff.mp found)
  | blank cursor split found inductionHypothesis =>
      rw [next_of_blank found]
      exact .blank (LexemeClass.first?_eq_some_iff.mp found) inductionHypothesis
  | token cursor tokenClass split found inductionHypothesis =>
      rw [next_of_token found]
      exact .token (LexemeClass.first?_eq_some_iff.mp found)

theorem Munches.next_eq {cursor after : Cursor} {outcome : Except ScanError Token}
    (munches : Munches cursor outcome after) : cursor.next = (outcome, after) := by
  induction munches with
  | ended location => exact @next_of_none ⟨[], location⟩ rfl
  | character location foreign =>
      exact next_of_none (LexemeClass.first?_eq_none_iff.mpr foreign)
  | blank longest behind inductionHypothesis =>
      rw [next_of_blank (LexemeClass.first?_eq_some_iff.mpr longest)]
      exact inductionHypothesis
  | token longest => exact next_of_token (LexemeClass.first?_eq_some_iff.mpr longest)

end Cursor

/-- Among the classes with a lexeme at the beginning of a text, the first in their order takes one that
is as long as any, and the cursor reads what a reader without the order reads. A quoted text starts with
one quoted lexeme at most, which ends at the first mark that is not paired with an escape mark. -/
theorem first_match_is_longest (text : List Char) :
    (∀ before best after, LexemeClass.all = before ++ best :: after →
      (∀ earlier ∈ before, ¬ earlier.Matches text) → best.Matches text →
        ∃ lexeme rest, best.take? text = some (lexeme, rest) ∧
          LexemeClass.IsLongest text best lexeme rest) ∧
    (∀ location outcome after,
      (⟨text, location⟩ : Cursor).next = (outcome, after) ↔
        Cursor.Munches ⟨text, location⟩ outcome after) ∧
    ∀ mark, .token (.quoted mark) ∈ LexemeClass.all →
      ∀ lexeme rest, text = lexeme ++ rest →
        lexeme ∈ LexemeClass.pattern (.token (.quoted mark)) →
        (∀ other behind, text = other ++ behind →
          other ∈ LexemeClass.pattern (.token (.quoted mark)) → other = lexeme) ∧
        ∃ units, escapeUnits text.tail = units ++ [mark] :: escapeUnits rest ∧ [mark] ∉ units ∧
          lexeme = mark :: units.flatten ++ [mark] := by
  refine ⟨?_, ?_, ?_⟩
  · intro before best after order refused found
    have known : best ∈ LexemeClass.all := by simp [order]
    obtain ⟨split, taken⟩ := LexemeClass.exists_take?_of_matches known found
    have read := LexemeClass.first?_of_split order ?_ taken
    · exact ⟨split.1, split.2, taken, LexemeClass.first?_eq_some_iff.mp read⟩
    · intro earlier member
      by_contra notNone
      obtain ⟨other, some⟩ := Option.ne_none_iff_exists'.mp notNone
      exact refused earlier member (LexemeClass.matches_of_take? some)
  · intro location outcome after
    constructor
    · intro call
      have munches := Cursor.munches_next ⟨text, location⟩
      rwa [call] at munches
    · exact Cursor.Munches.next_eq
  · rintro mark known lexeme rest rfl member
    have notEscape := escapeMark_ne (quoted_mem_all.mp known)
    obtain ⟨body, meaning, rfl, writing⟩ := LexemeClass.mem_pattern_quoted.mp member
    refine ⟨?_, ?_⟩
    · intro other behind same otherMember
      obtain ⟨otherBody, otherMeaning, rfl, otherWriting⟩ :=
        LexemeClass.mem_pattern_quoted.mp otherMember
      have closed := writing.quotedBody?_eq notEscape rest
      have otherClosed := otherWriting.quotedBody?_eq notEscape behind
      have texts : body ++ mark :: rest = otherBody ++ mark :: behind := by simpa using same
      rw [texts, otherClosed] at closed
      cases closed
      rfl
    · obtain ⟨units, split, first, flatten⟩ := writing.escapeUnits_eq notEscape rest
      refine ⟨units, ?_, first, by rw [flatten]⟩
      simpa using split

end Predicates
