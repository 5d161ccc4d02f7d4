/-
This file lays the lexemes of a text out again with other blanks between them and with other
spellings of operators and constants, and shows that the tokens stay the same but for their spelling.
-/

import Predicates.Expression.Typing
import Predicates.Proofs.Lexing.Boundaries

namespace Predicates

/-- The spelling of a logical operator is left open. -/
def TokenForm.plain : TokenForm → TokenForm
  | .connective operation _ => .connective operation .symbol
  | .not _ => .not .symbol
  | form => form

namespace LogicalOperator

def word : LogicalOperator → String
  | .chain connective => connective.word
  | .not => "not"

def form : LogicalOperator → Spelling → TokenForm
  | .chain connective, spelling => .connective connective spelling
  | .not, spelling => .not spelling

/-- The lexeme is the symbol of the operator, or its word in any letter case. -/
def IsWritten (operator : LogicalOperator) (lexeme : List Char) : Prop :=
  lexeme = operator.symbol.toList ∨ lexeme.map Char.toLower = operator.word.toList

theorem plain_form (operator : LogicalOperator) (spelling : Spelling) :
    (operator.form spelling).plain = operator.form .symbol := by
  cases operator <;> rfl

end LogicalOperator

/-- A logical operator may change between its symbol and its word, and the letters of a constant may
change their case. -/
inductive Respelled : List Char → List Char → Prop where
  | same (lexeme : List Char) : Respelled lexeme lexeme
  | operator {old new : List Char} (operator : LogicalOperator) (before : operator.IsWritten old)
      (after : operator.IsWritten new) : Respelled old new
  | constant {old new : List Char} {word : String} (known : word ∈ ["true", "false", "null"])
      (before : old.map Char.toLower = word.toList) (after : new.map Char.toLower = word.toList) :
      Respelled old new

/-- The lexemes stand in this order with blanks around them, and there is a blank behind each but
the last one. -/
inductive LaidOut : List (List Char) → List Char → Prop where
  | ended {gap : List Char} (blank : IsGap gap) : LaidOut [] gap
  | lexeme {gap lexeme rest : List Char} {lexemes : List (List Char)} (blank : IsGap gap)
      (ends : Lexeme.Ends rest) (behind : LaidOut lexemes rest) :
      LaidOut (lexeme :: lexemes) (gap ++ (lexeme ++ rest))

namespace Lexeme

theorem startsWord_of_toLower {character : Char} (starts : startsWord character.toLower = true) :
    startsWord character = true := by
  by_cases upper : 'A'.val ≤ character.val ∧ character.val ≤ 'Z'.val
  · have capital : character.isUpper = true := decide_eq_true upper
    have letter : character.isAlpha = true := Bool.or_eq_true_iff.mpr (Or.inl capital)
    simp only [startsWord, letter, Bool.true_or]
  · have same : character.toLower = character := dif_neg upper
    rwa [same] at starts

theorem continuesWord_of_startsWord {character : Char} (starts : startsWord character = true) :
    continuesWord character = true := by
  rcases Bool.or_eq_true_iff.mp starts with letter | underscore
  · simp [continuesWord, Char.isAlphanum, letter]
  · simp [continuesWord, of_decide_eq_true underscore]

end Lexeme

section Respelling

variable {form : TokenForm} {old new rest behind : List Char}

/-- A keyword is read in any letter case. -/
theorem TokenForm.isReadAs_keyword {word lexeme : List Char} (known : (word, form) ∈ Lexeme.keywords)
    (same : lexeme.map Char.toLower = word) (ends : Lexeme.Ends rest) : form.IsReadAs lexeme rest := by
  have spelled : ∀ keyword ∈ Lexeme.keywords, keyword.1 ≠ [] ∧
      keyword.1.all Lexeme.startsWord = true ∧
      Lexeme.keywords.lookup keyword.1 = some keyword.2 := by
    decide
  obtain ⟨some, letters, looked⟩ := spelled (word, form) known
  subst same
  have starts : ∀ character ∈ lexeme, Lexeme.startsWord character = true := fun character member =>
    Lexeme.startsWord_of_toLower
      (List.all_eq_true.mp letters character.toLower (List.mem_map_of_mem member))
  cases lexeme with
  | nil => exact absurd rfl some
  | cons first others =>
      apply isReadAs_word (starts first List.mem_cons_self) _ ends
      · rw [Lexeme.wordForm, looked]
        rfl
      · rw [List.all_eq_true]
        intro character member
        exact Lexeme.continuesWord_of_startsWord (starts character (List.mem_cons_of_mem first member))

/-- A logical operator is read from its symbol and from its word. -/
theorem LogicalOperator.IsWritten.exists_isReadAs {operator : LogicalOperator} {lexeme : List Char}
    (written : operator.IsWritten lexeme) (ends : Lexeme.Ends rest) :
    ∃ spelling, (operator.form spelling).IsReadAs lexeme rest := by
  rcases written with rfl | word
  · refine ⟨.symbol, ?_⟩
    cases operator with
    | chain connective => exact TokenForm.isReadAs_spelled trivial ends
    | not => exact TokenForm.isReadAs_spelled trivial ends
  · refine ⟨.word, TokenForm.isReadAs_keyword ?_ word ends⟩
    cases operator with
    | chain connective => cases connective <;> decide
    | not => decide

/-- A respelled lexeme is read as the same token but for its spelling. -/
theorem Respelled.exists_isReadAs (respelled : Respelled old new) (read : form.IsReadAs old rest)
    (ends : Lexeme.Ends behind) :
    ∃ other : TokenForm, other.IsReadAs new behind ∧ form.plain = other.plain := by
  have readBefore := read.before ends
  cases respelled with
  | same => exact ⟨form, readBefore, rfl⟩
  | operator operator before after =>
      obtain ⟨oldSpelling, oldRead⟩ := before.exists_isReadAs ends
      obtain ⟨newSpelling, newRead⟩ := after.exists_isReadAs ends
      obtain rfl := readBefore.unique oldRead
      exact ⟨_, newRead, by rw [operator.plain_form, operator.plain_form]⟩
  | @constant _ word known before after =>
      have keyword : ∃ constant, (word.toList, constant) ∈ Lexeme.keywords := by
        simp only [List.mem_cons, List.not_mem_nil, or_false] at known
        rcases known with rfl | rfl | rfl
        · exact ⟨.literal (.bool true), by decide⟩
        · exact ⟨.literal (.bool false), by decide⟩
        · exact ⟨.literal .null, by decide⟩
      obtain ⟨constant, member⟩ := keyword
      obtain rfl := readBefore.unique (TokenForm.isReadAs_keyword member before ends)
      exact ⟨form, TokenForm.isReadAs_keyword member after ends, rfl⟩

end Respelling

/-- Where lexemes are respelled and laid out again, each is read as the same token but for its
spelling. -/
theorem LaidOut.consistsOf {words : List (List Char × TokenForm)} {lexemes : List (List Char)}
    {text : List Char} (laidOut : LaidOut lexemes text)
    (read : ∀ word ∈ words, ∃ rest, word.2.IsReadAs word.1 rest)
    (respelled : List.Forall₂ Respelled (words.map Prod.fst) lexemes) :
    ∃ others, ConsistsOf text others ∧
      List.Forall₂ (fun old new => old.plain = new.plain) (words.map Prod.snd)
        (others.map Prod.snd) := by
  induction laidOut generalizing words with
  | @ended gap blank =>
      cases words with
      | cons word words => cases respelled
      | nil =>
          have empty := ConsistsOf.ended.behind_gap blank
          rw [List.append_nil] at empty
          exact ⟨[], empty, .nil⟩
  | @lexeme gap lexeme rest lexemes blank ends behind inductionHypothesis =>
      cases words with
      | nil => cases respelled
      | cons word words =>
          rw [List.map_cons, List.forall₂_cons] at respelled
          obtain ⟨others, consists, same⟩ := inductionHypothesis
            (fun word member => read word (List.mem_cons_of_mem _ member)) respelled.2
          obtain ⟨before, readBefore⟩ := read word List.mem_cons_self
          obtain ⟨form, readAgain, sameForm⟩ := respelled.1.exists_isReadAs readBefore ends
          exact ⟨(lexeme, form) :: others,
            (ConsistsOf.word readAgain consists).behind_gap blank, .cons sameForm same⟩

end Predicates
