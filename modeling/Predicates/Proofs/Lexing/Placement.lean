/-
This file divides a text into the lexemes of its tokens and the blanks before them, and shows that
every token and every error is located at its place in the text.
-/

import Predicates.Proofs.Lexing.Composition
import Mathlib.Data.List.DropRight

namespace Predicates

namespace Location

/-- The characters before a place tell where it is. Its line starts behind the last line feed among
them. -/
def behind (before : List Char) : Location where
  position := before.length
  line := 1 + before.count '\n'
  column := 1 + (before.rtakeWhile fun character => character ≠ '\n').length

theorem after_behind (before : List Char) (character : Char) :
    (behind before).after character = behind (before ++ [character]) := by
  by_cases feed : character = '\n'
  · subst feed
    simp [after, behind, Nat.add_assoc]
  · simp [after, behind, feed, Nat.add_assoc]

theorem advance_behind (before text : List Char) :
    (behind before).advance text = behind (before ++ text) := by
  induction text generalizing before with
  | nil => rw [List.append_nil]; rfl
  | cons character text inductionHypothesis =>
      have next := inductionHypothesis (before ++ [character])
      rw [← after_behind, List.append_assoc, List.singleton_append] at next
      exact next

end Location

/-- A piece of a text is the lexeme of one token with the blanks before it. -/
structure Piece where
  gap : List Char
  lexeme : List Char
  token : Token

def Piece.text (piece : Piece) : List Char :=
  piece.gap ++ piece.lexeme

/-- The text starts with the pieces and goes on with the rest. Each lexeme is read as its token, which
is located where the lexeme starts, counted from the beginning of what stands before the text. -/
inductive Divides : List Char → List Char → List Piece → List Char → Prop where
  | rest (before rest : List Char) : Divides before rest [] rest
  | piece {before gap lexeme behind rest : List Char} {form : TokenForm} {pieces : List Piece}
      (blank : IsGap gap) (read : form.IsReadAs lexeme behind)
      (later : Divides (before ++ (gap ++ lexeme)) behind pieces rest) :
      Divides before (gap ++ (lexeme ++ behind))
        (⟨gap, lexeme, ⟨form, .behind (before ++ gap)⟩⟩ :: pieces) rest

namespace Divides

variable {before text rest : List Char} {pieces : List Piece}

/-- Nothing of the text is lost. -/
theorem text_eq (divides : Divides before text pieces rest) :
    text = pieces.flatMap Piece.text ++ rest := by
  induction divides with
  | rest before rest => rfl
  | piece blank read later inductionHypothesis =>
      rw [List.flatMap_cons, inductionHypothesis]
      simp only [Piece.text, List.append_assoc]

/-- No piece holds the stop token. -/
theorem not_stop (divides : Divides before text pieces rest) :
    ∀ piece ∈ pieces, piece.token.form ≠ .stop := by
  induction divides with
  | rest before rest => simp
  | piece blank read later inductionHypothesis =>
      rw [List.forall_mem_cons]
      exact ⟨read.isSpellable.not_stop, inductionHypothesis⟩

end Divides

/-- The tokens up to the place are followed by the stop at the end of the text, by a character that no
lexeme starts with, or by a whole number with too many digits. -/
inductive ReadUpTo (place : Location) (tokens : List Token) :
    List Char → Except ScanError TokenStream → Prop where
  | ended : ReadUpTo place tokens [] (.ok ⟨tokens, ⟨.stop, place⟩⟩)
  | character {character : Char} {rest : List Char}
      (foreign : ∀ lexemeClass ∈ LexemeClass.all, lexemeClass.take? (character :: rest) = none) :
      ReadUpTo place tokens (character :: rest) (.error (.unexpectedCharacter character place))
  | number {digits rest : List Char} (stands : Lexeme.StandsWhole digits rest)
      (beyond : digitLimit < digits.length) :
      ReadUpTo place tokens (digits ++ rest) (.error (.tooManyDigits digits.length))

/-- One more token before the others makes no difference to what follows them. -/
theorem ReadUpTo.cons {place : Location} {tokens : List Token} {rest : List Char}
    {outcome : Except ScanError TokenStream} (read : ReadUpTo place tokens rest outcome)
    (token : Token) : ReadUpTo place (token :: tokens) rest
      (outcome.map fun stream => { stream with body := token :: stream.body }) := by
  cases read with
  | ended => exact .ended
  | character foreign => exact .character foreign
  | number stands beyond => exact .number stands beyond

namespace Cursor

/-- The next token is read from the first character that is no blank. -/
theorem next_eq_behind_blanks (cursor : Cursor) :
    cursor.next = (⟨cursor.rest.dropWhile isBlank,
      cursor.location.advance (cursor.rest.takeWhile isBlank)⟩ : Cursor).next := by
  by_cases some : cursor.rest.takeWhile isBlank = []
  · have all : cursor.rest.dropWhile isBlank = cursor.rest := by
      have joined := List.takeWhile_append_dropWhile (p := isBlank) (l := cursor.rest)
      rwa [some, List.nil_append] at joined
    rw [some, all]
    rfl
  · have blank : IsGap (cursor.rest.takeWhile isBlank) := fun character => List.mem_takeWhile_imp
    have found := LexemeClass.first?_blank_iff.mpr
      ⟨some, blank, Lexeme.outside_of_dropWhile isBlank cursor.rest⟩
    rw [List.takeWhile_append_dropWhile] at found
    exact next_of_blank found

/-- Reading first passes over all the blanks. -/
theorem exists_gap (cursor : Cursor) :
    ∃ gap rest, cursor.rest = gap ++ rest ∧ IsGap gap ∧
      (∀ split, LexemeClass.first? rest ≠ some (.blank, split)) ∧
      cursor.next = (⟨rest, cursor.location.advance gap⟩ : Cursor).next := by
  have joined : cursor.rest = cursor.rest.takeWhile isBlank ++ cursor.rest.dropWhile isBlank :=
    List.takeWhile_append_dropWhile.symm
  have blank : IsGap (cursor.rest.takeWhile isBlank) := fun character => List.mem_takeWhile_imp
  have ended := Lexeme.outside_of_dropWhile isBlank cursor.rest
  have notBlank (split : Lexeme.Split) :
      LexemeClass.first? (cursor.rest.dropWhile isBlank) ≠ some (.blank, split) := by
    intro found
    have taken : Lexeme.run? isBlank (cursor.rest.dropWhile isBlank) = some split :=
      LexemeClass.take?_of_first? found
    rw [Lexeme.run?_eq_none_of_head? ended] at taken
    cases taken
  exact ⟨_, _, joined, blank, notBlank, next_eq_behind_blanks cursor⟩

/-- The tokens of a text are those of its pieces, and there is a reason why no token follows them. -/
theorem exists_pieces (cursor : Cursor) (before : List Char)
    (placed : cursor.location = .behind before) :
    ∃ pieces gap rest, Divides before cursor.rest pieces (gap ++ rest) ∧ IsGap gap ∧
      ReadUpTo (.behind (before ++ (pieces.flatMap Piece.text ++ gap))) (pieces.map Piece.token)
        rest cursor.tokens := by
  induction length : cursor.rest.length using Nat.strongRecOn generalizing cursor before with
  | ind count inductionHypothesis =>
      obtain ⟨gap, behind, joined, blank, notBlank, next⟩ := cursor.exists_gap
      have tokens := tokens_of_same_next next
      rw [placed, Location.advance_behind] at tokens
      rw [tokens, joined]
      cases found : LexemeClass.first? behind with
      | none =>
          refine ⟨[], gap, behind, .rest before _, blank, ?_⟩
          have next := @next_of_none ⟨behind, .behind (before ++ gap)⟩ found
          cases behind with
          | nil =>
              rw [tokens_of_stop next rfl]
              exact .ended
          | cons character behind =>
              have foreign : ∀ lexemeClass ∈ LexemeClass.all,
                  lexemeClass.take? (character :: behind) = none := fun lexemeClass member =>
                Option.map_eq_none_iff.mp (List.findSome?_eq_none_iff.mp found lexemeClass member)
              rw [tokens_of_error next]
              exact .character foreign
      | some answer =>
          obtain ⟨lexemeClass, lexeme, rest⟩ := answer
          obtain ⟨rfl, some⟩ : lexeme ++ rest = behind ∧ lexeme ≠ [] :=
            LexemeClass.take?_append (LexemeClass.take?_of_first? found)
          cases lexemeClass with
          | blank => exact absurd found (notBlank _)
          | token tokenClass =>
              cases formed : tokenClass.form? lexeme with
              | none =>
                  obtain ⟨rfl, beyond⟩ := TokenClass.form?_eq_none.mp formed
                  have overlong := @tokens_of_overlong
                    ⟨lexeme ++ rest, .behind (before ++ gap)⟩ _ _ found formed
                  rw [overlong]
                  exact ⟨[], gap, lexeme ++ rest, .rest before _, blank,
                    .number (Lexeme.first?_whole_iff.mp found) beyond⟩
              | some form =>
                  have read : form.IsReadAs lexeme rest := ⟨tokenClass, found, formed⟩
                  have shorter : rest.length < count := by
                    have := List.length_pos_iff.mpr some
                    rw [← length, joined]
                    simp only [List.length_append]
                    omega
                  obtain ⟨pieces, last, left, later, lastBlank, upTo⟩ :=
                    inductionHypothesis rest.length shorter
                      ⟨rest, .behind (before ++ (gap ++ lexeme))⟩ _ rfl rfl
                  refine ⟨_, last, left, .piece blank read later, lastBlank, ?_⟩
                  rw [read.tokens_eq, Location.advance_behind, List.append_assoc]
                  simp only [List.flatMap_cons, Piece.text, List.append_assoc] at upTo ⊢
                  exact upTo.cons _

end Cursor

/-- A text whose tokens can be read is made of their lexemes and of blanks around them, the stop token
is the last one and the only one of its kind, and it stands at the end of the text. When a character
is refused, the text before it is divided in the same way and no lexeme starts with the character. All
tokens and the refused character are located by the characters before them. -/
theorem tokens_divide_text (text : String) :
    match tokenize text with
    | .ok stream => ∃ pieces gap, Divides [] text.toList pieces gap ∧ IsGap gap ∧
        text.toList = pieces.flatMap Piece.text ++ gap ∧
        stream.toList = pieces.map Piece.token ++ [⟨.stop, .behind text.toList⟩] ∧
        ∀ piece ∈ pieces, piece.token.form ≠ .stop
    | .error (.unexpectedCharacter character place) => ∃ pieces gap rest,
        Divides [] text.toList pieces (gap ++ character :: rest) ∧ IsGap gap ∧
        text.toList = pieces.flatMap Piece.text ++ (gap ++ character :: rest) ∧
        place = .behind (pieces.flatMap Piece.text ++ gap) ∧
        ∀ lexemeClass ∈ LexemeClass.all, lexemeClass.take? (character :: rest) = none
    | .error (.tooManyDigits count) => ∃ pieces gap digits rest,
        Divides [] text.toList pieces (gap ++ (digits ++ rest)) ∧ IsGap gap ∧
        Lexeme.StandsWhole digits rest ∧ digits.length = count ∧ digitLimit < count := by
  obtain ⟨pieces, gap, rest, divides, blank, upTo⟩ :=
    (Cursor.ofText text).exists_pieces [] rfl
  change Divides [] text.toList pieces (gap ++ rest) at divides
  have joined := divides.text_eq
  rw [List.nil_append] at upTo
  change ReadUpTo _ _ rest (tokenize text) at upTo
  generalize tokenize text = outcome at upTo
  cases upTo with
  | ended =>
      rw [List.append_nil] at divides joined
      exact ⟨pieces, gap, divides, blank, joined, by rw [joined]; rfl, divides.not_stop⟩
  | character foreign => exact ⟨pieces, gap, _, divides, blank, joined, rfl, foreign⟩
  | number stands beyond => exact ⟨pieces, gap, _, _, divides, blank, stands, rfl, beyond⟩

/-- The line feed inside the string starts a line, and the token behind it is located on that line. -/
example : (tokenize "'a\n' ==\n x").toOption.map (fun stream => stream.toList.map Token.location) =
    some [⟨0, 1, 1⟩, ⟨5, 2, 3⟩, ⟨9, 3, 2⟩, ⟨10, 3, 3⟩] := by
  decide +kernel

end Predicates
