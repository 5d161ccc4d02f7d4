/-
This file shows which trees a text can have, and that the printed text of each of them is read back.
-/

import Predicates.Proofs.Grammar.Acceptance
import Predicates.Proofs.Lexing.Composition
import Predicates.Proofs.Printing.Brackets

namespace Predicates

namespace Expression

/-- A node is spellable when its own token is and when it is no chain of less than two operands. -/
def NodeIsSpellable : Expression → Prop
  | .literal value => value.IsSpellable
  | .identifier name => IsName name
  | .logical _ operands => 2 ≤ operands.length
  | _ => True

end Expression

namespace Grammar

/-- Spellable tokens derive trees of spellable nodes only. -/
theorem Derives.everywhere {forms : List TokenForm} {phrase : Phrase} {depths : List Nat}
    (derived : Derives forms phrase depths) (spellable : ∀ form ∈ forms, form.IsSpellable) :
    ∀ tree ∈ phrase.trees, tree.Everywhere Expression.NodeIsSpellable := by
  induction derived with
  | literal value =>
      intro tree member
      rw [List.mem_singleton.mp member, Expression.everywhere_literal]
      exact spellable _ List.mem_cons_self
  | identifier name =>
      intro tree member
      rw [List.mem_singleton.mp member, Expression.everywhere_identifier]
      exact spellable _ List.mem_cons_self
  | parenthesis inner inductionHypothesis =>
      exact inductionHypothesis fun form member =>
        spellable form (List.mem_cons_of_mem _ (List.mem_append_left _ member))
  | primary only inductionHypothesis => exact inductionHypothesis spellable
  | not spelling inner inductionHypothesis =>
      intro tree member
      rw [List.mem_singleton.mp member, Expression.everywhere_unary]
      exact ⟨trivial, inductionHypothesis
        (fun form member => spellable form (List.mem_cons_of_mem _ member)) _ List.mem_cons_self⟩
  | minus inner inductionHypothesis =>
      intro tree member
      rw [List.mem_singleton.mp member, Expression.everywhere_unary]
      exact ⟨trivial, inductionHypothesis
        (fun form member => spellable form (List.mem_cons_of_mem _ member)) _ List.mem_cons_self⟩
  | unary only inductionHypothesis => exact inductionHypothesis spellable
  | comparison operator before last beforeHypothesis lastHypothesis =>
      intro tree member
      rw [List.mem_singleton.mp member, Expression.everywhere_comparison]
      refine ⟨trivial, beforeHypothesis ?_ _ List.mem_cons_self,
        lastHypothesis ?_ _ List.mem_cons_self⟩
      · exact fun form member => spellable form (List.mem_append_left _ member)
      · exact fun form member =>
          spellable form (List.mem_append_right _ (List.mem_cons_of_mem _ member))
  | last only inductionHypothesis =>
      rw [Phrase.trees_operand] at inductionHypothesis
      exact inductionHypothesis spellable
  | more spelling head tail headHypothesis tailHypothesis =>
      rw [Phrase.trees_operand] at headHypothesis
      intro tree member
      rcases List.mem_cons.mp member with rfl | member
      · exact headHypothesis (fun form member => spellable form (List.mem_append_left _ member)) _
          List.mem_cons_self
      · exact tailHypothesis (fun form member =>
          spellable form (List.mem_append_right _ (List.mem_cons_of_mem _ member))) tree member
  | single only inductionHypothesis => exact inductionHypothesis spellable
  | logical run several inductionHypothesis =>
      intro tree member
      rw [List.mem_singleton.mp member, Expression.everywhere_logical]
      exact ⟨several, inductionHypothesis spellable⟩

end Grammar

namespace Expression

variable {tree : Expression} {forms : List TokenForm}

theorem bracketed_isSpellable {needed : Binding}
    (spellable : ∀ form ∈ forms, form.IsSpellable) :
    ∀ form ∈ bracketed needed tree forms, form.IsSpellable := by
  unfold bracketed
  split
  · intro form member
    simp only [List.mem_cons, List.mem_append, List.not_mem_nil, or_false] at member
    rcases member with rfl | member | rfl
    · trivial
    · exact spellable form member
    · trivial
  · exact spellable

/-- Two rows of spellable tokens may have a sign between them. -/
theorem join_isSpellable {left right : List TokenForm} {sign : TokenForm}
    (leftSpellable : ∀ form ∈ left, form.IsSpellable) (signSpellable : sign.IsSpellable)
    (rightSpellable : ∀ form ∈ right, form.IsSpellable) :
    ∀ form ∈ left ++ sign :: right, form.IsSpellable := by
  intro form member
  rcases List.mem_append.mp member with member | member
  · exact leftSpellable form member
  · rcases List.mem_cons.mp member with rfl | member
    · exact signSpellable
    · exact rightSpellable form member

theorem chainForms_isSpellable {connective : Connective} {operands : List Expression}
    (spellable : ∀ operand ∈ operands, ∀ form ∈ operand.forms, form.IsSpellable) :
    ∀ form ∈ chainForms connective operands, form.IsSpellable := by
  induction operands with
  | nil =>
      intro form member
      cases member
  | cons operand rest inductionHypothesis =>
      have first : ∀ form ∈ bracketed (.ofOperand connective) operand operand.forms,
          form.IsSpellable := bracketed_isSpellable (spellable operand List.mem_cons_self)
      cases rest with
      | nil => exact first
      | cons second others =>
          exact join_isSpellable first trivial (inductionHypothesis fun operand member =>
            spellable operand (List.mem_cons_of_mem _ member))

/-- A tree of spellable nodes is printed with spellable tokens. -/
theorem forms_isSpellable (spellable : tree.Everywhere NodeIsSpellable) :
    ∀ form ∈ tree.forms, form.IsSpellable := by
  induction tree with
  | literal value =>
      intro form member
      rw [List.mem_singleton.mp member]
      exact everywhere_literal.mp spellable
  | identifier name =>
      intro form member
      rw [List.mem_singleton.mp member]
      exact everywhere_identifier.mp spellable
  | comparison operator left right leftHypothesis rightHypothesis =>
      obtain ⟨-, leftSpellable, rightSpellable⟩ := everywhere_comparison.mp spellable
      exact join_isSpellable (bracketed_isSpellable (leftHypothesis leftSpellable)) trivial
        (bracketed_isSpellable (rightHypothesis rightSpellable))
  | logical connective operands inductionHypothesis =>
      obtain ⟨-, operandsSpellable⟩ := everywhere_logical.mp spellable
      exact chainForms_isSpellable fun operand member =>
        inductionHypothesis operand member (operandsSpellable operand member)
  | unary operator operand inductionHypothesis =>
      obtain ⟨-, operandSpellable⟩ := everywhere_unary.mp spellable
      have before : ∀ form ∈ ([] : List TokenForm), form.IsSpellable := by simp
      have sign : operator.form.IsSpellable := by cases operator <;> trivial
      exact join_isSpellable before sign
        (bracketed_isSpellable (inductionHypothesis operandSpellable))

theorem NodeIsSpellable.isProper {node : Expression} (spellable : node.NodeIsSpellable) :
    node.IsProper := by
  cases node with
  | logical connective operands => exact spellable
  | _ => trivial

end Expression

/-- The literal is the value of some number token. -/
def Literal.IsNumberToken (number : Literal) : Prop :=
  ∃ text stream, tokenize text = .ok stream ∧ .literal number ∈ stream.body.map Token.form

/-- Exactly the spellable numbers are values of number tokens. -/
theorem Literal.isNumberToken_iff {number : Literal} :
    number.IsNumberToken ↔ number.IsSpellable := by
  constructor
  · rintro ⟨text, stream, read, member⟩
    exact tokens_isSpellable read _ member
  · intro spellable
    have only : ∀ form ∈ [TokenForm.literal number], form.IsSpellable := by
      intro form member
      rw [List.mem_singleton.mp member]
      exact spellable
    obtain ⟨stream, read, same⟩ := tokenize_spaced only
    exact ⟨_, stream, read, same ▸ List.mem_cons_self⟩

/-- Null, truth values and strings can be written, and so can the numbers of number tokens. -/
def Literal.IsWritable : Literal → Prop
  | .integer value => (Literal.integer value).IsNumberToken
  | .binary value => (Literal.binary value).IsNumberToken
  | _ => True

namespace Expression

/-- Literals and identifiers can be written, and chains have at least two operands. -/
def NodeIsWritable : Expression → Prop
  | .literal value => value.IsWritable
  | .identifier name => IsName name
  | .logical _ operands => 2 ≤ operands.length
  | _ => True

theorem nodeIsWritable_iff {node : Expression} : node.NodeIsWritable ↔ node.NodeIsSpellable := by
  cases node with
  | literal value =>
      cases value with
      | integer number => exact Literal.isNumberToken_iff
      | binary number => exact Literal.isNumberToken_iff
      | _ => exact Iff.rfl
  | _ => exact Iff.rfl

end Expression

/-- A tree that was read is low and writable. -/
theorem writable_of_parse {text : String} {tree : Expression} (parsed : parse text = .ok tree) :
    tree.height ≤ 50 ∧ tree.Everywhere Expression.NodeIsWritable := by
  obtain ⟨stream, depths, read, sentence, -, low⟩ := Grammar.sentence_of_parse parsed
  have spellable := sentence.everywhere (tokens_isSpellable read) tree List.mem_cons_self
  exact ⟨low, spellable.mono fun node => Expression.nodeIsWritable_iff.mpr⟩

/-- Any text with the printed tokens of a proper and low tree is read as the tree. -/
theorem parse_of_forms {text : String} {stream : TokenStream} {tree : Expression}
    (proper : tree.Everywhere Expression.IsProper) (low : tree.height ≤ 50)
    (read : tokenize text = .ok stream) (printed : stream.body.map Token.form = tree.forms) :
    parse text = .ok tree := by
  obtain ⟨depths, sentence, below⟩ := Grammar.sentence_forms proper
  rw [Grammar.parse_eq_ok_of_stream read, Grammar.stream_parse_eq_ok, printed]
  exact ⟨⟨depths, sentence, fun depth member =>
    Nat.le_of_lt (Nat.lt_of_lt_of_le (below depth member) low)⟩, low⟩

/-- The trees of texts are exactly the low trees whose nodes can be written. Each of them is printed
with as few parentheses as any text of it, its tokens are nested less deep than the tree is high,
and every text with these tokens is read as the tree again. The numbers of number tokens are the
integers with at most 4300 digits, the finite binary numbers without a sign and infinity. -/
theorem parse_image_and_print :
    (∀ tree : Expression, (∃ text, parse text = .ok tree) ↔
      tree.height ≤ 50 ∧ tree.Everywhere Expression.NodeIsWritable) ∧
    (∀ tree : Expression, tree.height ≤ 50 → tree.Everywhere Expression.NodeIsWritable →
      parse tree.print = .ok tree ∧
      (∃ stream, tokenize tree.print = .ok stream ∧ stream.body.map Token.form = tree.forms) ∧
      (∀ text stream, tokenize text = .ok stream → stream.body.map Token.form = tree.forms →
        parse text = .ok tree) ∧
      (∃ depths, Grammar.Sentence tree.forms tree depths ∧ ∀ depth ∈ depths, depth < tree.height) ∧
      ∀ forms depths, Grammar.Sentence forms tree depths →
        Grammar.openings tree.forms ≤ Grammar.openings forms) ∧
    (∀ value : Nat, (Literal.integer value).IsNumberToken ↔ value < 10 ^ digitLimit) ∧
    ∀ value : Binary64, (Literal.binary value).IsNumberToken ↔
      value = .infinity false ∨ ∃ magnitude, value = .finite false magnitude := by
  have printed (tree : Expression) (low : tree.height ≤ 50)
      (writable : tree.Everywhere Expression.NodeIsWritable) :
      tree.Everywhere Expression.IsProper ∧ parse tree.print = .ok tree ∧
        ∃ stream, tokenize tree.print = .ok stream ∧ stream.body.map Token.form = tree.forms := by
    have spellable := writable.mono fun node => Expression.nodeIsWritable_iff.mp
    have proper := spellable.mono fun node => Expression.NodeIsSpellable.isProper
    obtain ⟨stream, read, same⟩ := tokenize_spaced (Expression.forms_isSpellable spellable)
    exact ⟨proper, parse_of_forms proper low read same, stream, read, same⟩
  refine ⟨fun tree => ⟨?_, ?_⟩, fun tree low writable => ?_, fun value => Literal.isNumberToken_iff,
    fun value => Literal.isNumberToken_iff⟩
  · rintro ⟨text, parsed⟩
    exact writable_of_parse parsed
  · rintro ⟨low, writable⟩
    exact ⟨tree.print, (printed tree low writable).2.1⟩
  · obtain ⟨proper, parsed, read⟩ := printed tree low writable
    exact ⟨parsed, read, fun text stream => parse_of_forms proper low,
      Grammar.sentence_forms proper, fun forms depths => Grammar.openings_forms_le⟩

/-- Only the disjunction needs parentheses here. -/
example : (Expression.logical .and [.logical .or [.identifier "a", .identifier "b"],
    .comparison .below (.unary .minus (.literal (.integer 1))) (.identifier "c")]).print =
      "( a || b ) && - 1 < c" := by
  decide +kernel

end Predicates
