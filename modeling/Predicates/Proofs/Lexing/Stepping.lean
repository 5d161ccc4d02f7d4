/-
This file follows the cursor through any number of calls for the next token, also after calls that
failed, and shows where each call leaves it.
-/

import Predicates.Proofs.Lexing.Placement

namespace Predicates

theorem Location.advance_append (location : Location) (left right : List Char) :
    location.advance (left ++ right) = (location.advance left).advance right :=
  List.foldl_append

theorem Location.position_advance (location : Location) (characters : List Char) :
    (location.advance characters).position = location.position + characters.length := by
  induction characters generalizing location with
  | nil => rfl
  | cons character characters inductionHypothesis =>
      have behind := inductionHypothesis (location.after character)
      have one : (location.after character).position = location.position + 1 := by
        unfold Location.after
        split <;> rfl
      change ((location.after character).advance characters).position = _
      rw [behind, one, List.length_cons]
      omega

/-- The stop is final, and so is a character that no lexeme starts with. A whole number with too many
digits is not, because the cursor has passed over it. -/
def Cursor.IsFinal : Except ScanError Token → Prop
  | .ok token => token.form = .stop
  | .error (.unexpectedCharacter _ _) => True
  | .error (.tooManyDigits _) => False

instance (outcome : Except ScanError Token) : Decidable (Cursor.IsFinal outcome) :=
  match outcome with
  | .ok token => inferInstanceAs (Decidable (token.form = .stop))
  | .error (.unexpectedCharacter _ _) => inferInstanceAs (Decidable True)
  | .error (.tooManyDigits _) => inferInstanceAs (Decidable False)

/-- This is the cursor after a number of calls for the next token, whatever they gave. -/
def Cursor.afterCalls : Nat → Cursor → Cursor
  | 0, cursor => cursor
  | count + 1, cursor => cursor.next.2.afterCalls count

namespace Cursor

variable {cursor other : Cursor}

theorem afterCalls_add (first second : Nat) (cursor : Cursor) :
    cursor.afterCalls (first + second) = (cursor.afterCalls first).afterCalls second := by
  induction first generalizing cursor with
  | zero => rw [Nat.zero_add, afterCalls]
  | succ first inductionHypothesis =>
      rw [Nat.succ_add, afterCalls, afterCalls, inductionHypothesis]

theorem afterCalls_succ (count : Nat) (cursor : Cursor) :
    cursor.afterCalls (count + 1) = (cursor.afterCalls count).next.2 :=
  afterCalls_add count 1 cursor

/-- Each step is a call on the cursor that the steps before it leave. -/
theorem steps_eq_map (count : Nat) (cursor : Cursor) :
    cursor.steps count = (List.range count).map fun index => (cursor.afterCalls index).next := by
  induction count generalizing cursor with
  | zero => rfl
  | succ count inductionHypothesis =>
      rw [steps, inductionHypothesis, List.range_succ_eq_map, List.map_cons, List.map_map]
      rfl

theorem next_afterCalls_of_same_next (same : cursor.next = other.next) (count : Nat) :
    (cursor.afterCalls count).next = (other.afterCalls count).next := by
  cases count with
  | zero => exact same
  | succ count => rw [afterCalls, afterCalls, same]

/-- Blanks before a place make no difference to a call. -/
theorem next_behind_gap {gap : List Char} (blank : IsGap gap) (rest : List Char)
    (location : Location) :
    (⟨gap ++ rest, location⟩ : Cursor).next = (⟨rest, location.advance gap⟩ : Cursor).next := by
  rw [next_eq_behind_blanks, next_eq_behind_blanks ⟨rest, location.advance gap⟩]
  simp only [List.takeWhile_append_of_pos blank, List.dropWhile_append_of_pos blank,
    Location.advance_append]

/-- A call passes over the blanks before a place, and what it finds there is the end of the text, a
character that no lexeme starts with, or a lexeme. -/
inductive CallsFor (cursor : Cursor) : Except ScanError Token × Cursor → Prop where
  | ended {gap : List Char} (joined : cursor.rest = gap) (blank : IsGap gap) :
      CallsFor cursor
        (.ok ⟨.stop, cursor.location.advance gap⟩, ⟨[], cursor.location.advance gap⟩)
  | character {gap rest : List Char} {character : Char}
      (joined : cursor.rest = gap ++ character :: rest) (blank : IsGap gap)
      (foreign : LexemeClass.first? (character :: rest) = none) :
      CallsFor cursor
        (.error (.unexpectedCharacter character (cursor.location.advance gap)),
          ⟨character :: rest, cursor.location.advance gap⟩)
  | lexeme {gap lexeme rest : List Char} {tokenClass : TokenClass}
      (joined : cursor.rest = gap ++ (lexeme ++ rest)) (blank : IsGap gap)
      (found : LexemeClass.first? (lexeme ++ rest) = some (.token tokenClass, (lexeme, rest))) :
      CallsFor cursor
        ((⟨lexeme ++ rest, cursor.location.advance gap⟩ : Cursor).tokenOf tokenClass lexeme,
          ⟨rest, cursor.location.advance (gap ++ lexeme)⟩)

/-- Every call ends in one of these ways. -/
theorem callsFor_next (cursor : Cursor) : CallsFor cursor cursor.next := by
  obtain ⟨gap, rest, joined, blank, notBlank, next⟩ := cursor.exists_gap
  rw [next]
  cases found : LexemeClass.first? rest with
  | none =>
      rw [@next_of_none ⟨rest, cursor.location.advance gap⟩ found]
      cases rest with
      | nil =>
          rw [List.append_nil] at joined
          exact .ended joined blank
      | cons character rest => exact .character joined blank found
  | some answer =>
      obtain ⟨lexemeClass, lexeme, behind⟩ := answer
      obtain rfl : lexeme ++ behind = rest :=
        (LexemeClass.take?_append (LexemeClass.take?_of_first? found)).1
      cases lexemeClass with
      | blank => exact absurd found (notBlank _)
      | token tokenClass =>
          rw [@next_of_token ⟨lexeme ++ behind, _⟩ (lexeme, behind) tokenClass found]
          have passed := CallsFor.lexeme joined blank found
          rwa [Location.advance_append] at passed

/-- What a call leaves of the text is an end of it, and the cursor is placed before that end. -/
theorem exists_passed (cursor : Cursor) :
    ∃ passed, cursor.rest = passed ++ cursor.next.2.rest ∧
      cursor.next.2.location = cursor.location.advance passed := by
  generalize call : cursor.next = outcome
  have calls := callsFor_next cursor
  rw [call] at calls
  cases calls with
  | ended joined blank => exact ⟨_, by rw [List.append_nil, joined], rfl⟩
  | character joined blank foreign => exact ⟨_, joined, rfl⟩
  | lexeme joined blank found => exact ⟨_, by rw [joined, List.append_assoc], rfl⟩

/-- A form that a lexeme has is not the stop. -/
theorem not_isFinal_tokenOf {tokenClass : TokenClass} {lexeme rest : List Char}
    {location : Location}
    (found : LexemeClass.first? (lexeme ++ rest) = some (.token tokenClass, (lexeme, rest))) :
    ¬ IsFinal ((⟨lexeme ++ rest, location⟩ : Cursor).tokenOf tokenClass lexeme) := by
  unfold tokenOf
  split
  · rename_i form formed
    have spellable := isSpellable_of_form? (LexemeClass.mem_all_of_first? found)
      (LexemeClass.take?_of_first? found) formed
    exact spellable.not_stop
  · exact not_false

/-- A final call is repeated by the next one. -/
theorem next_of_isFinal (final : IsFinal cursor.next.1) : cursor.next.2.next = cursor.next := by
  generalize call : cursor.next = outcome at final
  have calls := callsFor_next cursor
  rw [call] at calls
  cases calls with
  | ended joined blank => exact @next_of_none ⟨[], _⟩ rfl
  | character joined blank foreign => exact next_of_none foreign
  | lexeme joined blank found => exact absurd final (not_isFinal_tokenOf found)

/-- After a final call nothing changes any more. -/
theorem afterCalls_of_isFinal (final : IsFinal cursor.next.1) (count : Nat) :
    cursor.next.2.afterCalls count = cursor.next.2 := by
  induction count with
  | zero => rfl
  | succ count inductionHypothesis =>
      rw [afterCalls_succ, inductionHypothesis, next_of_isFinal final]

/-- The tokens of a text are what its calls give, one after the other. -/
theorem tokens_of_call {stream : TokenStream} {token : Token} {after : Cursor} (count : Nat)
    (read : cursor.tokens = .ok stream)
    (call : (cursor.afterCalls count).next = (.ok token, after)) (notStop : token.form ≠ .stop) :
    ∃ later, stream.body = stream.body.take count ++ token :: later ∧
      after.tokens = .ok ⟨later, stream.stop⟩ := by
  induction count generalizing cursor stream with
  | zero =>
      rw [afterCalls] at call
      rw [tokens_of_token call notStop] at read
      obtain ⟨others, found, rfl⟩ := Outcome.map_eq_ok.mp read
      exact ⟨others.body, rfl, found⟩
  | succ count inductionHypothesis =>
      rcases next : cursor.next with ⟨outcome, behind⟩
      cases outcome with
      | error error =>
          rw [tokens_of_error next] at read
          cases read
      | ok first =>
          by_cases stop : first.form = .stop
          · have final : IsFinal cursor.next.1 := by rw [next]; exact stop
            rw [afterCalls, afterCalls_of_isFinal final, next_of_isFinal final, next] at call
            cases call
            exact absurd stop notStop
          · rw [tokens_of_token next stop] at read
            obtain ⟨others, found, rfl⟩ := Outcome.map_eq_ok.mp read
            rw [afterCalls, next] at call
            obtain ⟨later, split, tokens⟩ := inductionHypothesis found call
            exact ⟨later, congrArg (first :: ·) split, tokens⟩

/-- A call that is not final has passed over a lexeme, which decides what it gives. -/
theorem exists_lexeme_of_not_isFinal (goesOn : ¬ IsFinal cursor.next.1) :
    ∃ gap lexeme tokenClass, cursor.rest = gap ++ (lexeme ++ cursor.next.2.rest) ∧ IsGap gap ∧
      LexemeClass.first? (lexeme ++ cursor.next.2.rest) =
        some (.token tokenClass, (lexeme, cursor.next.2.rest)) ∧
      cursor.next.1 =
        (⟨lexeme ++ cursor.next.2.rest, cursor.location.advance gap⟩ : Cursor).tokenOf
          tokenClass lexeme ∧
      cursor.next.2.location = cursor.location.advance (gap ++ lexeme) := by
  generalize call : cursor.next = outcome at goesOn
  have calls := callsFor_next cursor
  rw [call] at calls
  cases calls with
  | ended joined blank => exact absurd rfl goesOn
  | character joined blank foreign => exact absurd trivial goesOn
  | lexeme joined blank found => exact ⟨_, _, _, joined, blank, found, rfl, rfl⟩

/-- A lexeme is never empty, so less of the text is left. -/
theorem shorter_of_not_isFinal (goesOn : ¬ IsFinal cursor.next.1) :
    cursor.next.2.rest.length < cursor.rest.length := by
  obtain ⟨gap, lexeme, tokenClass, joined, -, found, -⟩ := exists_lexeme_of_not_isFinal goesOn
  have some : lexeme ≠ [] := (LexemeClass.take?_append (LexemeClass.take?_of_first? found)).2
  have nonempty := List.length_pos_iff.mpr some
  have lengths := congrArg List.length joined
  simp only [List.length_append] at lengths
  omega

theorem position_lt_of_not_isFinal (goesOn : ¬ IsFinal cursor.next.1) :
    cursor.location.position < cursor.next.2.location.position := by
  obtain ⟨passed, joined, placed⟩ := cursor.exists_passed
  have shorter := shorter_of_not_isFinal goesOn
  have lengths := congrArg List.length joined
  rw [List.length_append] at lengths
  rw [placed, Location.position_advance]
  omega

/-- The cursor that any number of calls leaves is placed before the rest of the text. -/
theorem exists_passed_afterCalls {before : List Char} (placed : cursor.location = .behind before)
    (count : Nat) :
    ∃ passed, cursor.rest = passed ++ (cursor.afterCalls count).rest ∧
      (cursor.afterCalls count).location = .behind (before ++ passed) := by
  induction count with
  | zero => exact ⟨[], rfl, by rw [List.append_nil]; exact placed⟩
  | succ count inductionHypothesis =>
      obtain ⟨passed, joined, reached⟩ := inductionHypothesis
      obtain ⟨more, split, advanced⟩ := (cursor.afterCalls count).exists_passed
      rw [afterCalls_succ]
      refine ⟨passed ++ more, by rw [joined, split, List.append_assoc, ← split], ?_⟩
      rw [advanced, reached, Location.advance_behind, List.append_assoc]

/-- Each call that is not final takes at least one character from the text. -/
theorem lt_length_of_not_isFinal (cursor : Cursor) (count : Nat)
    (goesOn : ¬ IsFinal (cursor.afterCalls count).next.1) : count < cursor.rest.length := by
  induction count generalizing cursor with
  | zero => exact Nat.zero_lt_of_lt (shorter_of_not_isFinal goesOn)
  | succ count inductionHypothesis =>
      have behind := inductionHypothesis cursor.next.2 goesOn
      have first : ¬ IsFinal cursor.next.1 := by
        intro final
        apply goesOn
        rw [afterCalls, afterCalls_of_isFinal final, next_of_isFinal final]
        exact final
      have shorter := shorter_of_not_isFinal first
      omega

/-- The steps of a text are calls on one cursor. Each call leaves the cursor at a place of the text,
with the line and the column of that place. A call that is not final has read or refused the lexeme
right before that place, and the cursor has moved on. A final call is repeated by all later calls, and
they leave the cursor where it is. There are at most as many calls before a final one as the text has
characters. -/
theorem calls_through_failures (text : String) :
    (∀ count, (ofText text).steps count =
      (List.range count).map fun index => ((ofText text).afterCalls index).next) ∧
    ∀ index,
      let before := (ofText text).afterCalls index
      let outcome := before.next.1
      let after := before.next.2
      (∃ passed, text.toList = passed ++ after.rest ∧ after.location = .behind passed) ∧
      (¬ IsFinal outcome → before.location.position < after.location.position ∧
        ∃ gap lexeme tokenClass, before.rest = gap ++ (lexeme ++ after.rest) ∧ IsGap gap ∧
          LexemeClass.first? (lexeme ++ after.rest) =
            some (.token tokenClass, (lexeme, after.rest)) ∧
          outcome = (⟨lexeme ++ after.rest, before.location.advance gap⟩ : Cursor).tokenOf
            tokenClass lexeme ∧
          after.location = before.location.advance (gap ++ lexeme)) ∧
      (IsFinal outcome → ∀ later, (ofText text).afterCalls (index + 1 + later) = after ∧
        ((ofText text).afterCalls (index + 1 + later)).next = (outcome, after)) ∧
      (text.length ≤ index → IsFinal outcome) := by
  refine ⟨fun count => steps_eq_map count (ofText text), ?_⟩
  intro index before outcome after
  have placed : ∃ passed, text.toList = passed ++ after.rest ∧ after.location = .behind passed := by
    have atStart : (ofText text).location = .behind [] := rfl
    have reached := exists_passed_afterCalls atStart (index + 1)
    rwa [afterCalls_succ] at reached
  have settled (final : IsFinal outcome) (later : Nat) :
      (ofText text).afterCalls (index + 1 + later) = after := by
    rw [afterCalls_add, afterCalls_succ]
    exact afterCalls_of_isFinal final later
  refine ⟨placed, ?_, ?_, ?_⟩
  · intro goesOn
    exact ⟨position_lt_of_not_isFinal goesOn, exists_lexeme_of_not_isFinal goesOn⟩
  · intro final later
    exact ⟨settled final later, by rw [settled final later]; exact next_of_isFinal final⟩
  · intro reached
    by_contra goesOn
    have short := lt_length_of_not_isFinal (ofText text) index goesOn
    have length : (ofText text).rest.length = text.length := String.length_toList
    omega

/-- The blank before the foreign character is passed over once, and no later call goes on. -/
example : ((ofText " a @").steps 4).map (fun step => step.2.location.position) = [2, 3, 3, 3] := by
  decide +kernel

end Cursor

end Predicates
