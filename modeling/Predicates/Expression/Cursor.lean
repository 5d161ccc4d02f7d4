/-
This file reads the tokens of an expression one after the other.
-/

import Predicates.Expression.LexemeSplit

namespace Predicates

/-- A token is not read when no lexeme starts at a character or when an integer is too long. -/
inductive ScanError where
  | unexpectedCharacter (character : Char) (location : Location)
  | tooManyDigits (count : Nat)
  deriving DecidableEq

def ScanError.message : ScanError → String
  | .unexpectedCharacter character location =>
    s!"Unexpected character '{character}' at line {location.line}, column {location.column}"
  | .tooManyDigits count => tooManyDigitsMessage count

/-- The stop token closes the tokens of a text. -/
structure TokenStream where
  body : List Token
  stop : Token
  deriving DecidableEq

def TokenStream.toList (stream : TokenStream) : List Token :=
  stream.body ++ [stream.stop]

/-- A cursor holds the text that is still to be read and the place where it starts. -/
structure Cursor where
  rest : List Char
  location : Location
  deriving DecidableEq

namespace Cursor

def ofText (text : String) : Cursor :=
  ⟨text.toList, Location.start⟩

def skip (cursor : Cursor) (split : Lexeme.Split) : Cursor :=
  ⟨split.2, cursor.location.advance split.1⟩

/-- A token carries the place where its lexeme starts. -/
def tokenOf (cursor : Cursor) (tokenClass : TokenClass) (lexeme : List Char) :
    Except ScanError Token :=
  match tokenClass.form? lexeme with
  | some form => .ok ⟨form, cursor.location⟩
  | none => .error (.tooManyDigits lexeme.length)

/-- Where no lexeme starts, the text has ended or a character is out of place. -/
def tokenAtEnd (cursor : Cursor) : Except ScanError Token :=
  match cursor.rest with
  | [] => .ok ⟨.stop, cursor.location⟩
  | character :: _ => .error (.unexpectedCharacter character cursor.location)

/-- The cursor passes over blanks and over the lexeme that was read, and it stays before a
character that starts no lexeme. -/
def next (cursor : Cursor) : Except ScanError Token × Cursor :=
  match _ : LexemeClass.first? cursor.rest with
  | none => (cursor.tokenAtEnd, cursor)
  | some (.blank, split) => (cursor.skip split).next
  | some (.token tokenClass, split) => (cursor.tokenOf tokenClass split.1, cursor.skip split)
termination_by cursor.rest.length
decreasing_by exact LexemeClass.first?_shorter ‹_›

/-- Only the stop is read without passing over a lexeme. -/
theorem next_shorter {cursor after : Cursor} {token : Token}
    (read : cursor.next = (.ok token, after)) (notStop : token.form ≠ .stop) :
    after.rest.length < cursor.rest.length := by
  fun_induction next cursor with
  | case1 cursor =>
    simp only [Prod.mk.injEq, tokenAtEnd] at read
    split at read
    · have same := Except.ok.inj read.1
      exact absurd (by rw [← same]) notStop
    · simp at read
  | case2 cursor split found inductionHypothesis =>
    exact Nat.lt_trans (inductionHypothesis read) (LexemeClass.first?_shorter found)
  | case3 cursor tokenClass split found =>
    simp only [Prod.mk.injEq] at read
    rw [← read.2]
    exact LexemeClass.first?_shorter found

/-- Tokens are read until the stop, or until one cannot be read. -/
def tokens (cursor : Cursor) : Except ScanError TokenStream :=
  match _ : cursor.next with
  | (.error failure, _) => .error failure
  | (.ok token, after) =>
    if _ : token.form = .stop then .ok ⟨[], token⟩
    else after.tokens.map fun stream => { stream with body := token :: stream.body }
termination_by cursor.rest.length
decreasing_by exact next_shorter ‹_› ‹_›

end Cursor

/-- The tokens of a text are read from its start. -/
def tokenize (text : String) : Except ScanError TokenStream :=
  (Cursor.ofText text).tokens

/-- This function reads a number of tokens and keeps the cursor after each, also after a
failure. -/
def Cursor.steps : Nat → Cursor → List (Except ScanError Token × Cursor)
  | 0, _ => []
  | count + 1, cursor => cursor.next :: cursor.next.2.steps count

end Predicates
