/-
This file shows that a parse error points at the first token that no sentence goes on with.
-/

import Predicates.Proofs.Grammar.Acceptance
import Predicates.Proofs.Grammar.Refusal
import Predicates.Proofs.Lexing.Placement

namespace Predicates

namespace Grammar

open Predicates.Parser

/-- Nothing is said about how deep the tokens of the sentence are nested. -/
def IsSentence (forms : List TokenForm) : Prop :=
  ∃ tree depths, Sentence forms tree depths

def BeginsSentence (forms : List TokenForm) : Prop :=
  ∃ completion, IsSentence (forms ++ completion)

/-- All tokens that are read make up a sentence. -/
theorem isSentence_of_run {stop : Token} {room : Nat} {tokens : List Token} {tree : Expression}
    (found : (expressionAt stop room).run tokens = .ok (tree, [])) :
    IsSentence (tokens.map Token.form) := by
  obtain ⟨used, depths, split, derived, -⟩ := expressionAt_sound stop room tokens _ found
  rw [List.append_nil] at split
  exact ⟨tree, depths, split ▸ derived⟩

/-- A sentence is read when there is enough room. -/
theorem IsSentence.exists_room {tokens : List Token} (sentence : IsSentence (tokens.map Token.form))
    (stop : Token) (room : Nat) :
    ∃ extra tree, (expressionAt stop (extra + room)).run tokens = .ok (tree, []) := by
  obtain ⟨tree, depths, derived⟩ := sentence
  obtain ⟨extra, within, -⟩ := exists_within depths depths
  have wider : Within (extra + room) depths := fun depth member =>
    Nat.le_add_right_of_le (within depth member)
  exact ⟨extra, tree, expressionAt_complete derived wider stop⟩

/-- No sentence starts with a token that every run stops before. -/
theorem not_beginsSentence (stop : Token) (room : Nat) {token : Token} {before : List Token}
    (stopped : ∀ extra others tree,
      (expressionAt stop (extra + room)).run (before ++ token :: others) ≠ .ok (tree, [])) :
    ¬ BeginsSentence ((before ++ [token]).map Token.form) := by
  rintro ⟨completion, sentence⟩
  -- Only the forms of tokens matter to the parser, so any location will do.
  let others := completion.map fun form => (⟨form, Location.start⟩ : Token)
  have forms : (before ++ token :: others).map Token.form =
      (before ++ [token]).map Token.form ++ completion := by
    simp [others, Function.comp_def]
  rw [← forms] at sentence
  obtain ⟨extra, tree, found⟩ := sentence.exists_room stop room
  exact stopped extra others tree found

/-- The tokens before the misfit can be completed to a sentence, but not when the misfit is the next
one. The stop is a misfit when the tokens before it are not a sentence themselves. -/
inductive FirstMisfit (stream : TokenStream) : List Token → Token → Prop where
  | token {before behind : List Token} {token : Token}
      (split : stream.body = before ++ token :: behind)
      (begins : BeginsSentence (before.map Token.form))
      (misfit : ¬ BeginsSentence ((before ++ [token]).map Token.form)) :
      FirstMisfit stream before token
  | stop (begins : BeginsSentence (stream.body.map Token.form))
      (unfinished : ¬ IsSentence (stream.body.map Token.form)) :
      FirstMisfit stream stream.body stream.stop

section Misfits

variable {stop : Token} {room : Nat} {body : List Token}

/-- The token that a run refuses is a misfit. -/
theorem exists_firstMisfit_of_error {error : ParseError}
    (failed : (expressionAt stop room).run body = .error error)
    (shallow : error.failure ≠ .nestedTooDeeply) :
    ∃ before, FirstMisfit ⟨body, stop⟩ before error.token := by
  have foretold := expressionAt_follows stop room body
  rw [failed] at foretold
  cases foretold with
  | @refused failure before rest split completion completed refuses =>
      obtain ⟨tree, found⟩ := completed 0 [] ended_nil
      have sentence := isSentence_of_run found
      rw [List.append_nil, List.map_append] at sentence
      have begins : BeginsSentence (before.map Token.form) := ⟨_, sentence⟩
      cases rest with
      | nil =>
          rw [List.append_nil] at split
          subst split
          refine ⟨body, .stop begins fun sentence => ?_⟩
          obtain ⟨extra, whole, read⟩ := sentence.exists_room stop room
          obtain ⟨other, refused⟩ := refuses extra [] rfl
          rw [List.append_nil] at refused
          cases read.symm.trans refused
      | cons token behind =>
          refine ⟨before, .token split begins (not_beginsSentence stop room ?_)⟩
          intro extra others whole read
          obtain ⟨other, refused⟩ := refuses extra (token :: others) rfl
          cases read.symm.trans refused
  | tooDeep token => exact absurd rfl shallow

/-- The first token that a run leaves is a misfit. -/
theorem exists_firstMisfit_of_rest {tree : Expression} {token : Token} {behind : List Token}
    (found : (expressionAt stop room).run body = .ok (tree, token :: behind)) :
    ∃ before, FirstMisfit ⟨body, stop⟩ before token := by
  have foretold := expressionAt_follows stop room body
  rw [found] at foretold
  cases foretold with
  | @read result before rest split again =>
      have sentence := isSentence_of_run (again 0 [] (Or.inr ended_nil))
      rw [List.map_append] at sentence
      refine ⟨before, .token split ⟨_, sentence⟩ (not_beginsSentence stop room ?_)⟩
      intro extra others other read
      cases read.symm.trans (again extra (token :: others) (Or.inl rfl))

end Misfits

/-- A stream that is refused for another reason than its nesting is refused at its first misfit. -/
theorem exists_firstMisfit {stream : TokenStream} {error : ParseError}
    (failed : stream.parse = .error error) (shallow : error.failure ≠ .nestedTooDeeply) :
    ∃ before, FirstMisfit stream before error.token := by
  obtain ⟨body, stop⟩ := stream
  cases body with
  | nil =>
      cases failed
      have literal : Sentence [.literal .null] (.literal .null) [0] :=
        .single (.last (.single (.last (.unary (.primary (.literal .null))))))
      refine ⟨[], .stop ⟨_, _, _, literal⟩ ?_⟩
      rintro ⟨tree, depths, derived⟩
      exact derived.ne_nil rfl
  | cons first behind =>
      rcases Outcome.bind_eq_error.mp failed with refused | ⟨⟨tree, rest⟩, found, failed⟩
      · exact exists_firstMisfit_of_error refused shallow
      · cases rest with
        | cons token rest =>
            cases failed
            exact exists_firstMisfit_of_rest found
        | nil =>
            by_cases high : tree.isDeeperThan nestingLimit = true
            · simp only [if_pos high, Except.error.injEq] at failed
              exact absurd (failed ▸ rfl) shallow
            · simp [if_neg high] at failed

end Grammar

/-- A piece stands behind the pieces in front of it. -/
theorem Divides.at_piece {before text rest : List Char} {front back : List Piece} {piece : Piece}
    (divides : Divides before text (front ++ piece :: back) rest) :
    ∃ behind, Divides before text front (piece.gap ++ (piece.lexeme ++ behind)) ∧
      IsGap piece.gap ∧ piece.token.form.IsReadAs piece.lexeme behind ∧
      piece.token.location = .behind (before ++ (front.flatMap Piece.text ++ piece.gap)) := by
  induction front generalizing before text with
  | nil =>
      cases divides with
      | piece blank read later => exact ⟨_, .rest before _, blank, read, rfl⟩
  | cons first front inductionHypothesis =>
      cases divides with
      | piece blank read later =>
          obtain ⟨behind, inFront, pieceBlank, pieceRead, location⟩ := inductionHypothesis later
          refine ⟨behind, .piece blank read inFront, pieceBlank, pieceRead, ?_⟩
          rw [location]
          simp [Piece.text]

/-- Ahead of the token, the text holds the lexemes of the tokens before it and blanks. Its own lexeme
follows, or the text ends at the stop. -/
def StandsBehind (text ahead : List Char) (before : List Token) (token : Token) : Prop :=
  ∃ pieces gap rest, Divides [] text pieces (gap ++ rest) ∧ IsGap gap ∧
    pieces.map Piece.token = before ∧ ahead = pieces.flatMap Piece.text ++ gap ∧
    ((∃ lexeme behind, rest = lexeme ++ behind ∧ token.form.IsReadAs lexeme behind) ∨
      rest = [] ∧ token.form = .stop)

/-- The misfit of a text is located at its place in the text. -/
theorem Grammar.FirstMisfit.exists_ahead {text : String} {stream : TokenStream} {before : List Token}
    {token : Token} (misfit : FirstMisfit stream before token) (read : tokenize text = .ok stream) :
    ∃ ahead, StandsBehind text.toList ahead before token ∧ token.location = .behind ahead := by
  obtain ⟨pieces, gap, rest, divides, blank, upTo⟩ :=
    (Cursor.ofText text).exists_pieces [] rfl
  change Divides [] text.toList pieces (gap ++ rest) at divides
  change ReadUpTo _ _ rest (tokenize text) at upTo
  rw [read] at upTo
  cases upTo
  cases misfit with
  | token split begins misfit =>
      obtain ⟨front, others, rfl, frontTokens, otherTokens⟩ := List.map_eq_append_iff.mp split
      obtain ⟨piece, back, rfl, rfl, -⟩ := List.map_eq_cons_iff.mp otherTokens
      obtain ⟨behind, inFront, pieceBlank, pieceRead, location⟩ := divides.at_piece
      exact ⟨_, ⟨front, piece.gap, _, inFront, pieceBlank, frontTokens, rfl,
        Or.inl ⟨_, behind, rfl, pieceRead⟩⟩, location⟩
  | stop begins unfinished =>
      exact ⟨_, ⟨pieces, gap, [], divides, blank, rfl, rfl, Or.inr ⟨rfl, rfl⟩⟩, rfl⟩

/-- A parse error that is not about nesting points at the first token of the text that no sentence
goes on with, or at the stop when the tokens are only the beginning of a sentence. The error is located
where the token stands in the text. -/
theorem parse_error_at_first_misfit {text : String} {error : ParseError}
    (failed : parse text = .error (.parse error)) (shallow : error.failure ≠ .nestedTooDeeply) :
    ∃ stream before ahead, tokenize text = .ok stream ∧
      Grammar.FirstMisfit stream before error.token ∧
      StandsBehind text.toList ahead before error.token ∧ error.token.location = .behind ahead := by
  cases read : tokenize text with
  | error scanError =>
      rw [parse, read] at failed
      cases failed
  | ok stream =>
      rw [parse, read] at failed
      obtain ⟨same, refused, renamed⟩ := Outcome.mapError_eq_error.mp failed
      cases renamed
      obtain ⟨before, misfit⟩ := Grammar.exists_firstMisfit refused shallow
      obtain ⟨ahead, stands, location⟩ := misfit.exists_ahead read
      exact ⟨stream, before, ahead, rfl, misfit, stands, location⟩

/-- The second operand in the parentheses is refused although it could stand alone, and it is refused
before the parenthesis that is missing at the end. -/
theorem parse_error_at_first_misfit_enclosed :
    let error : ParseError := ⟨.missingClosing, ⟨.identifier "c", ⟨8, 1, 9⟩⟩⟩
    parse "a && (b c" = .error (.parse error) ∧ error.failure ≠ .nestedTooDeeply ∧
      ∃ stream before ahead, tokenize "a && (b c" = .ok stream ∧
        Grammar.FirstMisfit stream before error.token ∧
        StandsBehind "a && (b c".toList ahead before error.token ∧
        error.token.location = .behind ahead := by
  intro error
  have failed : parse "a && (b c" = .error (.parse error) := by with_unfolding_all rfl
  have shallow : error.failure ≠ .nestedTooDeeply := by decide
  exact ⟨failed, shallow, parse_error_at_first_misfit failed shallow⟩

end Predicates
