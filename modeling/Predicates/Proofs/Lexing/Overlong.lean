/-
This file shows that the tokens of a text cannot be read for two reasons only: no token starts at
one of its characters, or it holds a whole number with too many digits.
-/

import Predicates.Expression.Parser
import Predicates.Proofs.Lexing.Tokens

namespace Predicates

namespace LexemeClass

/-- The classes before the one that decides a lexeme take nothing. -/
theorem refused_of_first? {before after : List LexemeClass} {lexemeClass : LexemeClass}
    {text : List Char} {split : Lexeme.Split} (order : all = before ++ lexemeClass :: after)
    (fresh : lexemeClass ∉ before) (found : first? text = some (lexemeClass, split)) :
    ∀ earlier ∈ before, earlier.take? text = none := by
  rw [first?, order, List.findSome?_append] at found
  cases taken : before.findSome? fun earlier =>
      (earlier.take? text).map fun split => (earlier, split) with
  | none =>
      intro earlier member
      exact Option.map_eq_none_iff.mp (List.findSome?_eq_none_iff.mp taken earlier member)
  | some answer =>
      rw [taken, Option.some_or] at found
      obtain ⟨earlier, member, same⟩ := List.exists_of_findSome?_eq_some taken
      obtain ⟨inner, -, rfl⟩ := Option.map_eq_some_iff.mp same
      cases found
      exact absurd member fresh

end LexemeClass

namespace Lexeme

variable {digits rest text : List Char} {belongs : Char → Bool}

/-- A run that takes all it can ends before a character of another kind. -/
theorem outside_of_dropWhile (belongs : Char → Bool) (text : List Char) :
    ∀ character ∈ (text.dropWhile belongs).head?, belongs character = false := by
  intro character member
  have outside := List.head?_dropWhile_not belongs text
  rwa [Option.mem_def.mp member] at outside

/-- A run ends where its characters end. -/
theorem run?_eq_some (found : run? belongs text = some (digits, rest)) :
    digits ≠ [] ∧ (∀ character ∈ digits, belongs character = true) ∧
      ∀ character ∈ rest.head?, belongs character = false := by
  have nonempty := (run?_append found).2
  unfold run? at found
  split at found
  · cases found
  · cases found
    exact ⟨nonempty, fun character => List.mem_takeWhile_imp, outside_of_dropWhile belongs text⟩

/-- Digits with a point and a digit behind them are part of a fraction. -/
theorem fraction?_of_places {place : Char} {behind : List Char}
    (whole : run? isDecimalDigit text = some (digits, '.' :: place :: behind))
    (digit : isDecimalDigit place = true) : ∃ split, fraction? text = some split := by
  have places : run? isDecimalDigit (place :: behind) =
      some (place :: behind.takeWhile isDecimalDigit, behind.dropWhile isDecimalDigit) := by
    simp [run?, digit]
  rw [fraction?, whole]
  simp only [if_true, places]
  exact ⟨_, rfl⟩

/-- A text starts with a whole number exactly when its digits end before the rest, and the rest
does not make a fraction of them. -/
theorem first?_whole_iff :
    LexemeClass.first? (digits ++ rest) = some (.token .whole, (digits, rest)) ↔
      StandsWhole digits rest := by
  constructor
  · intro found
    have order : LexemeClass.all =
        LexemeClass.all.take 14 ++ .token .whole :: LexemeClass.all.drop 15 := rfl
    have refused := LexemeClass.refused_of_first? order (by simp [LexemeClass.all]) found
    have noFraction : fraction? (digits ++ rest) = none :=
      refused (.token .fraction) (by simp [LexemeClass.all])
    have taken : run? isDecimalDigit (digits ++ rest) = some (digits, rest) :=
      LexemeClass.take?_of_first? found
    obtain ⟨some, decimal, ended⟩ := run?_eq_some taken
    refine ⟨some, decimal, ended, ?_⟩
    rintro places rfl place member
    obtain ⟨behind, rfl⟩ := List.head?_eq_some_iff.mp member
    by_contra digit
    obtain ⟨split, fraction⟩ := fraction?_of_places taken (by simpa using digit)
    rw [noFraction] at fraction
    cases fraction
  · exact first?_whole

end Lexeme

/-- Only whole numbers can have a lexeme without a form, when it has too many digits. -/
theorem TokenClass.form?_eq_none {tokenClass : TokenClass} {lexeme : List Char} :
    tokenClass.form? lexeme = none ↔
      tokenClass = .whole ∧ digitLimit < lexeme.length := by
  cases tokenClass with
  | whole => simp [form?]
  | _ => simp [form?]

/-- Each lexeme before the rest of the text is a run of blanks or a token that can be read. -/
inductive ReadableUpTo : List Char → List Char → Prop where
  | here (rest : List Char) : ReadableUpTo rest rest
  | blank {text rest : List Char} {split : Lexeme.Split}
      (found : LexemeClass.first? text = some (.blank, split)) (behind : ReadableUpTo split.2 rest) :
      ReadableUpTo text rest
  | token {text rest : List Char} {tokenClass : TokenClass} {split : Lexeme.Split}
      {form : TokenForm} (found : LexemeClass.first? text = some (.token tokenClass, split))
      (formed : tokenClass.form? split.1 = some form) (behind : ReadableUpTo split.2 rest) :
      ReadableUpTo text rest

/-- A whole number of the text has these digits, which are too many, and all before it can be
read. -/
def HasOverlong (text digits : List Char) : Prop :=
  ∃ rest, ReadableUpTo text (digits ++ rest) ∧ Lexeme.StandsWhole digits rest ∧
    digitLimit < digits.length

theorem HasOverlong.of_behind {text behind digits : List Char}
    (readable : ∀ rest, ReadableUpTo behind rest → ReadableUpTo text rest)
    (overlong : HasOverlong behind digits) : HasOverlong text digits := by
  obtain ⟨rest, reached, stands, beyond⟩ := overlong
  exact ⟨rest, readable _ reached, stands, beyond⟩

namespace Cursor

variable {cursor after : Cursor} {split : Lexeme.Split} {tokenClass : TokenClass}

/-- A property of cursors is proved lexeme by lexeme, from the end of the text. -/
@[elab_as_elim]
theorem lexemeInduction {motive : Cursor → Prop}
    (ended : ∀ cursor, LexemeClass.first? cursor.rest = none → motive cursor)
    (blank : ∀ cursor split, LexemeClass.first? cursor.rest = some (.blank, split) →
      motive (cursor.skip split) → motive cursor)
    (token : ∀ cursor tokenClass split,
      LexemeClass.first? cursor.rest = some (.token tokenClass, split) →
      motive (cursor.skip split) → motive cursor)
    (cursor : Cursor) : motive cursor := by
  induction length : cursor.rest.length using Nat.strongRecOn generalizing cursor with
  | ind count inductionHypothesis =>
      subst length
      cases found : LexemeClass.first? cursor.rest with
      | none => exact ended cursor found
      | some answer =>
          obtain ⟨lexemeClass, split⟩ := answer
          have behind : motive (cursor.skip split) :=
            inductionHypothesis _ (LexemeClass.first?_shorter found) (cursor.skip split) rfl
          cases lexemeClass with
          | blank => exact blank cursor split found behind
          | token tokenClass => exact token cursor tokenClass split found behind

theorem tokens_of_error {error : ScanError} (failed : cursor.next = (.error error, after)) :
    cursor.tokens = .error error := by
  rw [tokens]
  split
  · rename_i other same
    rw [failed] at same
    cases same
    rfl
  · rename_i found
    rw [failed] at found
    cases found

/-- Cursors with the same next token have the same tokens. -/
theorem tokens_of_same_next {other : Cursor} (same : cursor.next = other.next) :
    cursor.tokens = other.tokens := by
  rcases read : other.next with ⟨outcome, behind⟩
  rw [read] at same
  cases outcome with
  | error error => rw [tokens_of_error same, tokens_of_error read]
  | ok token =>
      by_cases stop : token.form = .stop
      · rw [tokens_of_stop same stop, tokens_of_stop read stop]
      · rw [tokens_of_token same stop, tokens_of_token read stop]

theorem tokens_of_blank (found : LexemeClass.first? cursor.rest = some (.blank, split)) :
    cursor.tokens = (cursor.skip split).tokens :=
  tokens_of_same_next (next_of_blank found)

/-- The tokens of a text start with its first lexeme. -/
theorem tokens_of_form {form : TokenForm}
    (found : LexemeClass.first? cursor.rest = some (.token tokenClass, split))
    (formed : tokenClass.form? split.1 = some form) :
    cursor.tokens = (cursor.skip split).tokens.map fun stream =>
      { stream with body := ⟨form, cursor.location⟩ :: stream.body } := by
  have read := next_of_token found
  rw [tokenOf, formed] at read
  have spellable := isSpellable_of_form? (LexemeClass.mem_all_of_first? found)
    (LexemeClass.take?_of_first? found) formed
  exact tokens_of_token read spellable.not_stop

/-- A lexeme without a form is a whole number with too many digits. -/
theorem tokens_of_overlong
    (found : LexemeClass.first? cursor.rest = some (.token tokenClass, split))
    (unread : tokenClass.form? split.1 = none) :
    cursor.tokens = .error (.tooManyDigits split.1.length) := by
  have read := next_of_token found
  rw [tokenOf, unread] at read
  exact tokens_of_error read

/-- Tokens that are refused for a number of digits come to a whole number with these digits. -/
theorem hasOverlong_of_tokens {count : Nat} (cursor : Cursor)
    (failed : cursor.tokens = .error (.tooManyDigits count)) :
    ∃ digits, HasOverlong cursor.rest digits ∧ digits.length = count := by
  induction cursor using lexemeInduction with
  | ended cursor found =>
      have read := next_of_none found
      unfold tokenAtEnd at read
      split at read
      · rw [tokens_of_stop read rfl] at failed
        cases failed
      · rw [tokens_of_error read] at failed
        cases failed
  | blank cursor split found inductionHypothesis =>
      rw [tokens_of_blank found] at failed
      obtain ⟨digits, overlong, length⟩ := inductionHypothesis failed
      exact ⟨digits, overlong.of_behind fun rest => .blank found, length⟩
  | token cursor tokenClass split found inductionHypothesis =>
      cases formed : tokenClass.form? split.1 with
      | some form =>
          rw [tokens_of_form found formed] at failed
          obtain ⟨digits, overlong, length⟩ :=
            inductionHypothesis (Outcome.map_eq_error.mp failed)
          exact ⟨digits, overlong.of_behind fun rest => .token found formed, length⟩
      | none =>
          rw [tokens_of_overlong found formed] at failed
          cases failed
          obtain ⟨rfl, beyond⟩ := TokenClass.form?_eq_none.mp formed
          have joined := (LexemeClass.take?_append (LexemeClass.take?_of_first? found)).1
          rw [← joined] at found ⊢
          exact ⟨split.1, ⟨split.2, .here _, Lexeme.first?_whole_iff.mp found, beyond⟩, rfl⟩

/-- A whole number with too many digits refuses the tokens, whatever stands before and behind
it. -/
theorem tokens_of_hasOverlong {text digits : List Char} (overlong : HasOverlong text digits)
    (location : Location) :
    (⟨text, location⟩ : Cursor).tokens = .error (.tooManyDigits digits.length) := by
  obtain ⟨rest, reached, stands, beyond⟩ := overlong
  generalize ahead : digits ++ rest = target at reached
  induction reached generalizing location with
  | here target =>
      subst ahead
      exact @tokens_of_overlong ⟨digits ++ rest, location⟩ _ _ (Lexeme.first?_whole stands)
        (TokenClass.form?_eq_none.mpr ⟨rfl, beyond⟩)
  | @blank text target split found behind inductionHypothesis =>
      rw [@tokens_of_blank ⟨text, location⟩ split found]
      exact inductionHypothesis _ ahead
  | @token text target tokenClass split form found formed behind inductionHypothesis =>
      rw [@tokens_of_form ⟨text, location⟩ split tokenClass form found formed]
      exact Outcome.map_eq_error.mpr (inductionHypothesis _ ahead)

end Cursor

/-- Only a whole number with too many digits keeps a text from being parsed without a flaw in the
text. -/
theorem SourceError.isMalformed_eq_false {error : SourceError} :
    error.isMalformed = false ↔ ∃ count, error = .scan (.tooManyDigits count) := by
  cases error with
  | parse error => simp [isMalformed]
  | scan error => cases error <;> simp [isMalformed]

/-- A text is refused for a number of digits exactly when it holds a whole number with so many
digits, and they are too many. -/
theorem parse_eq_tooManyDigits {text : String} {count : Nat} :
    parse text = .error (.scan (.tooManyDigits count)) ↔
      ∃ digits, HasOverlong text.toList digits ∧ digits.length = count := by
  unfold parse
  constructor
  · intro failed
    split at failed
    · rename_i error refused
      cases failed
      exact Cursor.hasOverlong_of_tokens (Cursor.ofText text) refused
    · obtain ⟨error, -, impossible⟩ := Outcome.mapError_eq_error.mp failed
      cases impossible
  · rintro ⟨digits, overlong, rfl⟩
    have refused : tokenize text = .error (.tooManyDigits digits.length) :=
      Cursor.tokens_of_hasOverlong overlong Location.start
    rw [refused]

end Predicates
