/-
This file takes the reading of tokens one lexeme further, and shows that every token that is read has
a spelling.
-/

import Predicates.Expression.Cursor
import Predicates.Proofs.Association
import Predicates.Proofs.Lexing.Spelled
import Predicates.Proofs.Outcome
import Mathlib.Data.List.TakeWhile

namespace Predicates

/-- No token starts with a blank. -/
theorem LexemeClass.isBlank_of_first? {tokenClass : TokenClass} {text : List Char}
    {split : Lexeme.Split} (found : first? text = some (.token tokenClass, split)) :
    ∀ character ∈ text.head?, isBlank character = false := by
  have order : all = [] ++ .blank :: all.drop 1 := rfl
  intro character member
  obtain ⟨behind, rfl⟩ := List.head?_eq_some_iff.mp member
  by_contra notOther
  have blank : isBlank character = true := by simpa using notOther
  have taken : LexemeClass.blank.take? (character :: behind) =
      some (character :: behind.takeWhile isBlank, behind.dropWhile isBlank) := by
    simp [take?, Lexeme.run?, blank]
  rw [first?_of_split order (by simp) taken] at found
  cases found

namespace Cursor

variable {cursor after : Cursor} {token : Token} {split : Lexeme.Split}

theorem next_of_none (found : LexemeClass.first? cursor.rest = none) :
    cursor.next = (cursor.tokenAtEnd, cursor) := by
  rw [next]
  split
  · rfl
  · rename_i other same
    rw [found] at same
    cases same
  · rename_i other same
    rw [found] at same
    cases same

theorem next_of_blank (found : LexemeClass.first? cursor.rest = some (.blank, split)) :
    cursor.next = (cursor.skip split).next := by
  rw [next]
  split
  · rename_i none
    rw [found] at none
    cases none
  · rename_i other same
    rw [found] at same
    cases same
    rfl
  · rename_i other same
    rw [found] at same
    cases same

theorem next_of_token {tokenClass : TokenClass}
    (found : LexemeClass.first? cursor.rest = some (.token tokenClass, split)) :
    cursor.next = (cursor.tokenOf tokenClass split.1, cursor.skip split) := by
  rw [next]
  split
  · rename_i none
    rw [found] at none
    cases none
  · rename_i other same
    rw [found] at same
    cases same
  · rename_i other same
    rw [found] at same
    cases same
    rfl

theorem tokens_of_stop (read : cursor.next = (.ok token, after)) (stop : token.form = .stop) :
    cursor.tokens = .ok ⟨[], token⟩ := by
  rw [tokens]
  split
  · rename_i failed
    rw [read] at failed
    cases failed
  · rename_i found
    rw [read] at found
    cases found
    rw [dif_pos stop]

theorem tokens_of_token (read : cursor.next = (.ok token, after)) (notStop : token.form ≠ .stop) :
    cursor.tokens =
      after.tokens.map fun stream => { stream with body := token :: stream.body } := by
  rw [tokens]
  split
  · rename_i failed
    rw [read] at failed
    cases failed
  · rename_i found
    rw [read] at found
    cases found
    rw [dif_neg notStop]

/-- Only the stop token ends the tokens of a text. -/
theorem stop_of_tokens {stream : TokenStream} (read : cursor.tokens = .ok stream) :
    stream.stop.form = .stop := by
  fun_induction tokens cursor generalizing stream with
  | case1 => cases read
  | case2 _ token _ _ stop =>
      cases read
      exact stop
  | case3 cursor token after next notStop inductionHypothesis =>
      obtain ⟨others, found, rfl⟩ := Outcome.map_eq_ok.mp read
      have stop := inductionHypothesis found
      exact stop

end Cursor

theorem TokenForm.IsSpellable.not_stop {form : TokenForm} (spellable : form.IsSpellable) :
    form ≠ .stop := by
  rintro rfl
  exact spellable

section Read

/-- A binary number that is read from a text has no sign. -/
theorem Literal.isSpellable_fraction (lexeme : List Char) :
    (Literal.binary (Lexeme.fractionValue lexeme)).IsSpellable := by
  rw [Lexeme.fractionValue, Binary64.ofDecimalNotation_eq, Binary64.ofMagnitude]
  split
  · exact Or.inr ⟨_, rfl⟩
  · exact Or.inl rfl

theorem isSpellable_keyword : ∀ keyword ∈ Lexeme.keywords, keyword.2.IsSpellable := by
  intro keyword member
  simp only [Lexeme.keywords, List.mem_cons, List.not_mem_nil, or_false] at member
  rcases member with rfl | rfl | rfl | rfl | rfl | rfl <;> trivial

/-- A word is a keyword or a name. -/
theorem isSpellable_wordForm {text : List Char} {split : Lexeme.Split}
    (taken : Lexeme.word? text = some split) : (Lexeme.wordForm split.1).IsSpellable := by
  unfold Lexeme.wordForm
  cases found : Lexeme.keywords.lookup (split.1.map Char.toLower) with
  | some form =>
      exact isSpellable_keyword _ (Association.mem_of_lookup found)
  | none =>
      cases text with
      | nil => cases taken
      | cons first behind =>
          simp only [Lexeme.word?] at taken
          split at taken
          · rename_i starts
            cases taken
            refine ⟨first, behind.takeWhile Lexeme.continuesWord, String.toList_ofList, starts,
              fun character member => List.mem_takeWhile_imp member, ?_⟩
            intro keyword member same
            rw [String.toList_ofList] at same
            have different := List.lookup_eq_none_iff.mp found keyword member
            simp [same] at different
          · cases taken

/-- The signs that are read stand for tokens with a spelling. -/
theorem isSpellable_fixed {first : Char} {others : List Char} {form : TokenForm}
    (known : .token (.fixed first others form) ∈ LexemeClass.all) : form.IsSpellable := by
  simp only [LexemeClass.all, List.mem_cons, LexemeClass.token.injEq, TokenClass.fixed.injEq,
    reduceCtorEq, false_or, or_false, List.not_mem_nil] at known
  rcases known with ⟨-, -, rfl⟩ | ⟨-, -, rfl⟩ | ⟨-, -, rfl⟩ | ⟨-, -, rfl⟩ | ⟨-, -, rfl⟩ |
    ⟨-, -, rfl⟩ | ⟨-, -, rfl⟩ | ⟨-, -, rfl⟩ | ⟨-, -, rfl⟩ | ⟨-, -, rfl⟩ | ⟨-, -, rfl⟩ |
    ⟨-, -, rfl⟩ <;> trivial

/-- Every lexeme that is read as a token has a spelling. -/
theorem isSpellable_of_form? {tokenClass : TokenClass} {text : List Char} {split : Lexeme.Split}
    {form : TokenForm} (known : .token tokenClass ∈ LexemeClass.all)
    (taken : tokenClass.take? text = some split) (found : tokenClass.form? split.1 = some form) :
    form.IsSpellable := by
  cases tokenClass with
  | fixed first others fixedForm =>
      cases found
      exact isSpellable_fixed known
  | fraction =>
      cases found
      exact Literal.isSpellable_fraction split.1
  | whole =>
      simp only [TokenClass.form?] at found
      split at found
      · cases found
      · rename_i few
        cases found
        exact Nat.lt_of_lt_of_le (digitsValue_lt split.1)
          (Nat.pow_le_pow_right (by decide) (Nat.le_of_not_lt few))
  | quoted mark =>
      cases found
      trivial
  | word =>
      cases found
      exact isSpellable_wordForm taken

theorem next_isSpellable {cursor after : Cursor} {token : Token}
    (read : cursor.next = (.ok token, after)) (notStop : token.form ≠ .stop) :
    token.form.IsSpellable := by
  fun_induction Cursor.next cursor with
  | case1 cursor =>
      simp only [Prod.mk.injEq, Cursor.tokenAtEnd] at read
      split at read
      · have same := Except.ok.inj read.1
        exact absurd (by rw [← same]) notStop
      · simp at read
  | case2 cursor split found inductionHypothesis => exact inductionHypothesis read
  | case3 cursor tokenClass split found =>
      simp only [Prod.mk.injEq, Cursor.tokenOf] at read
      split at read
      · rename_i form formed
        have same := Except.ok.inj read.1
        rw [← same]
        exact isSpellable_of_form? (LexemeClass.mem_all_of_first? found)
          (LexemeClass.take?_of_first? found) formed
      · simp at read

/-- Every token of a text has a spelling. -/
theorem tokens_isSpellable {cursor : Cursor} {stream : TokenStream}
    (read : cursor.tokens = .ok stream) :
    ∀ form ∈ stream.body.map Token.form, form.IsSpellable := by
  fun_induction Cursor.tokens cursor generalizing stream with
  | case1 => cases read
  | case2 =>
      cases read
      intro form member
      cases member
  | case3 cursor token after next notStop inductionHypothesis =>
      obtain ⟨others, found, rfl⟩ := Outcome.map_eq_ok.mp read
      intro form member
      rcases List.mem_cons.mp member with rfl | member
      · exact next_isSpellable next notStop
      · exact inductionHypothesis found form member

end Read

end Predicates
