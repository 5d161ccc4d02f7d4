/-
This file takes a text apart into the lexemes of its tokens and the blanks around them, and reads
spelled tokens with spaces between them.
-/

import Predicates.Proofs.Lexing.Overlong

namespace Predicates

/-- A gap may hold any number of blanks. -/
def IsGap (gap : List Char) : Prop :=
  ∀ character ∈ gap, isBlank character = true

instance (gap : List Char) : Decidable (IsGap gap) :=
  decidable_of_iff (gap.all isBlank = true) List.all_eq_true

/-- The text consists of these lexemes, each of which is read as a token of its form, and of runs of
blanks around them. -/
inductive ConsistsOf : List Char → List (List Char × TokenForm) → Prop where
  | ended : ConsistsOf [] []
  | gap {gap rest : List Char} {words : List (List Char × TokenForm)} (some : gap ≠ [])
      (blank : IsGap gap) (ended : ∀ character ∈ rest.head?, isBlank character = false)
      (behind : ConsistsOf rest words) : ConsistsOf (gap ++ rest) words
  | word {lexeme rest : List Char} {form : TokenForm} {words : List (List Char × TokenForm)}
      (read : form.IsReadAs lexeme rest) (behind : ConsistsOf rest words) :
      ConsistsOf (lexeme ++ rest) ((lexeme, form) :: words)

/-- A text starts with a run of blanks exactly when the run ends before the rest. -/
theorem LexemeClass.first?_blank_iff {gap rest : List Char} :
    first? (gap ++ rest) = some (.blank, (gap, rest)) ↔
      gap ≠ [] ∧ IsGap gap ∧ ∀ character ∈ rest.head?, isBlank character = false := by
  have order : all = [] ++ .blank :: all.drop 1 := rfl
  constructor
  · intro found
    have taken : Lexeme.run? isBlank (gap ++ rest) = some (gap, rest) := take?_of_first? found
    exact Lexeme.run?_eq_some taken
  · rintro ⟨nonempty, blank, ended⟩
    exact first?_of_split order (by simp) (Lexeme.run?_append_of_ends nonempty blank ended)

namespace TokenForm.IsReadAs

variable {form : TokenForm} {lexeme rest : List Char}

/-- A lexeme in front of the rest is the first to be read. -/
theorem tokens_eq (read : form.IsReadAs lexeme rest) (location : Location) :
    (⟨lexeme ++ rest, location⟩ : Cursor).tokens =
      (⟨rest, location.advance lexeme⟩ : Cursor).tokens.map fun stream =>
        { stream with body := ⟨form, location⟩ :: stream.body } := by
  obtain ⟨tokenClass, found, formed⟩ := read
  exact @Cursor.tokens_of_form ⟨lexeme ++ rest, location⟩ (lexeme, rest) tokenClass form found formed

/-- A text that starts with a token does not start with a blank. -/
theorem isBlank_eq_false (read : form.IsReadAs lexeme rest) :
    ∀ character ∈ (lexeme ++ rest).head?, isBlank character = false := by
  obtain ⟨tokenClass, found, -⟩ := read
  exact LexemeClass.isBlank_of_first? found

theorem isSpellable (read : form.IsReadAs lexeme rest) : form.IsSpellable := by
  obtain ⟨tokenClass, found, formed⟩ := read
  exact isSpellable_of_form? (LexemeClass.mem_all_of_first? found)
    (LexemeClass.take?_of_first? found) formed

/-- The lexeme of a name is the name. -/
theorem lexeme_of_identifier {name : String} (read : (identifier name).IsReadAs lexeme rest) :
    lexeme = name.toList := by
  obtain ⟨tokenClass, found, formed⟩ := read
  cases tokenClass with
  | fixed first others fixedForm =>
      have known := LexemeClass.mem_all_of_first? found
      cases formed
      simp [LexemeClass.all] at known
  | fraction => cases formed
  | whole =>
      simp only [TokenClass.form?] at formed
      split at formed <;> cases formed
  | quoted mark => cases formed
  | word =>
      simp only [TokenClass.form?, Lexeme.wordForm, Option.some.injEq] at formed
      cases looked : Lexeme.keywords.lookup (lexeme.map Char.toLower) with
      | none =>
          rw [looked] at formed
          cases formed
          exact String.toList_ofList.symm
      | some keyword =>
          rw [looked] at formed
          have member := Association.mem_of_lookup looked
          cases formed
          simp [Lexeme.keywords] at member

end TokenForm.IsReadAs

namespace ConsistsOf

variable {text : List Char} {words : List (List Char × TokenForm)}

/-- Blanks in front of a text make no difference. -/
theorem behind_gap {gap : List Char} (consists : ConsistsOf text words) (blank : IsGap gap) :
    ConsistsOf (gap ++ text) words := by
  by_cases some : gap = []
  · rw [some]
    exact consists
  · cases consists with
    | ended => exact .gap some blank (by simp) .ended
    | gap innerSome innerBlank ended behind =>
        rw [← List.append_assoc]
        refine .gap (List.append_ne_nil_of_left_ne_nil some _) ?_ ended behind
        exact List.forall_mem_append.mpr ⟨blank, innerBlank⟩
    | word read behind => exact .gap some blank read.isBlank_eq_false (.word read behind)

/-- The tokens of a text are those of its lexemes. -/
theorem tokens_eq (consists : ConsistsOf text words) (location : Location) :
    ∃ stream, (⟨text, location⟩ : Cursor).tokens = .ok stream ∧
      stream.body.map Token.form = words.map Prod.snd := by
  induction consists generalizing location with
  | ended =>
      have read := @Cursor.next_of_none ⟨[], location⟩ rfl
      exact ⟨_, Cursor.tokens_of_stop read rfl, rfl⟩
  | @gap gap rest words some blank ended behind inductionHypothesis =>
      have found := LexemeClass.first?_blank_iff.mpr ⟨some, blank, ended⟩
      rw [@Cursor.tokens_of_blank ⟨gap ++ rest, location⟩ (gap, rest) found]
      exact inductionHypothesis _
  | @word lexeme rest form words read behind inductionHypothesis =>
      obtain ⟨stream, tokens, same⟩ := inductionHypothesis (location.advance lexeme)
      rw [read.tokens_eq, tokens]
      exact ⟨_, rfl, congrArg (form :: ·) same⟩

/-- Every text whose tokens can be read consists of the lexemes of its tokens. -/
theorem of_tokens (cursor : Cursor) {stream : TokenStream} (read : cursor.tokens = .ok stream) :
    ∃ words, ConsistsOf cursor.rest words ∧ stream.body.map Token.form = words.map Prod.snd := by
  induction cursor using Cursor.lexemeInduction generalizing stream with
  | ended cursor found =>
      have next := Cursor.next_of_none found
      unfold Cursor.tokenAtEnd at next
      split at next
      · rename_i empty
        rw [Cursor.tokens_of_stop next rfl] at read
        cases read
        exact ⟨[], empty ▸ .ended, rfl⟩
      · rw [Cursor.tokens_of_error next] at read
        cases read
  | blank cursor split found inductionHypothesis =>
      rw [Cursor.tokens_of_blank found] at read
      obtain ⟨words, behind, same⟩ := inductionHypothesis read
      have joined := (LexemeClass.take?_append (LexemeClass.take?_of_first? found)).1
      rw [← joined] at found ⊢
      obtain ⟨some, blank, ended⟩ := LexemeClass.first?_blank_iff.mp found
      exact ⟨words, .gap some blank ended behind, same⟩
  | token cursor tokenClass split found inductionHypothesis =>
      cases formed : tokenClass.form? split.1 with
      | none =>
          rw [Cursor.tokens_of_overlong found formed] at read
          cases read
      | some form =>
          rw [Cursor.tokens_of_form found formed] at read
          obtain ⟨others, behindRead, rfl⟩ := Outcome.map_eq_ok.mp read
          obtain ⟨words, behind, same⟩ := inductionHypothesis behindRead
          have joined := (LexemeClass.take?_append (LexemeClass.take?_of_first? found)).1
          rw [← joined] at found ⊢
          exact ⟨(split.1, form) :: words, .word ⟨tokenClass, found, formed⟩ behind,
            congrArg (form :: ·) same⟩

/-- Each lexeme is read as a token of its form before what follows it in the text. -/
theorem exists_isReadAs (consists : ConsistsOf text words) {word : List Char × TokenForm}
    (member : word ∈ words) : ∃ rest, word.2.IsReadAs word.1 rest := by
  induction consists with
  | ended => cases member
  | gap some blank ended behind inductionHypothesis => exact inductionHypothesis member
  | @word lexeme rest form words read behind inductionHypothesis =>
      rcases List.mem_cons.mp member with rfl | member
      · exact ⟨rest, read⟩
      · exact inductionHypothesis member

end ConsistsOf

section Spaced

variable {forms : List TokenForm}

theorem ends_spacedBefore (forms : List TokenForm) : Lexeme.Ends (spacedBefore forms) := by
  cases forms with
  | nil =>
      intro character member
      cases member
  | cons first rest =>
      intro character member
      cases member
      rfl

/-- Each spelled token is a lexeme behind its space. -/
theorem consistsOf_spacedBefore (spellable : ∀ form ∈ forms, form.IsSpellable) :
    ConsistsOf (spacedBefore forms) (forms.map fun form => (form.spelled, form)) := by
  induction forms with
  | nil => exact .ended
  | cons first rest inductionHypothesis =>
      rw [List.forall_mem_cons] at spellable
      have read := TokenForm.isReadAs_spelled spellable.1 (ends_spacedBefore rest)
      change ConsistsOf ([' '] ++ (first.spelled ++ spacedBefore rest)) _
      exact .gap (List.cons_ne_nil _ _) (List.forall_mem_singleton.mpr rfl) read.isBlank_eq_false
        (.word read (inductionHypothesis spellable.2))

theorem consistsOf_spaced (spellable : ∀ form ∈ forms, form.IsSpellable) :
    ConsistsOf (spaced forms) (forms.map fun form => (form.spelled, form)) := by
  cases forms with
  | nil => exact .ended
  | cons first rest =>
      rw [List.forall_mem_cons] at spellable
      have read := TokenForm.isReadAs_spelled spellable.1 (ends_spacedBefore rest)
      exact .word read (consistsOf_spacedBefore spellable.2)

/-- Spelled tokens with spaces between them are read as the tokens. -/
theorem tokenize_spaced (spellable : ∀ form ∈ forms, form.IsSpellable) :
    ∃ stream, tokenize (String.ofList (spaced forms)) = .ok stream ∧
      stream.body.map Token.form = forms := by
  obtain ⟨stream, read, same⟩ := (consistsOf_spaced spellable).tokens_eq Location.start
  rw [tokenize, Cursor.ofText, String.toList_ofList]
  exact ⟨stream, read, by simpa [Function.comp_def] using same⟩

end Spaced

end Predicates
