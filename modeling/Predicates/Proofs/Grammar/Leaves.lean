/-
This file shows that the leaves of a tree are the literals and the names of its text, in order.
-/

import Predicates.Expression.Identifiers
import Predicates.Proofs.Cache.Recency
import Predicates.Proofs.Expression.Structure
import Predicates.Proofs.Grammar.Acceptance
import Predicates.Proofs.Lexing.Composition

namespace Predicates

namespace TokenForm

/-- Literals and names become leaves of a tree. -/
def isLeaf : TokenForm → Bool
  | .literal _ => true
  | .identifier _ => true
  | _ => false

def name? : TokenForm → Option String
  | .identifier name => some name
  | _ => none

theorem name?_eq_some {form : TokenForm} {name : String} :
    form.name? = some name ↔ form = .identifier name := by
  cases form <;> simp [name?]

theorem filterMap_name?_filter (forms : List TokenForm) :
    (forms.filter isLeaf).filterMap name? = forms.filterMap name? := by
  rw [List.filterMap_filter]
  congr 1
  funext form
  cases form <;> rfl

end TokenForm

namespace Expression

mutual

/-- The leaves are listed from left to right, each as the token that it was read from. -/
def leaves : Expression → List TokenForm
  | .literal value => [.literal value]
  | .identifier name => [.identifier name]
  | .comparison _ left right => left.leaves ++ right.leaves
  | .logical _ operands => listLeaves operands
  | .unary _ operand => operand.leaves

def listLeaves : List Expression → List TokenForm
  | [] => []
  | operand :: rest => operand.leaves ++ listLeaves rest

end

theorem listLeaves_eq (operands : List Expression) : listLeaves operands = operands.flatMap leaves := by
  induction operands with
  | nil => rfl
  | cons operand rest inductionHypothesis =>
      rw [listLeaves, List.flatMap_cons, inductionHypothesis]

/-- The names that occur are the names among the leaves. -/
theorem occurrences_eq (expression : Expression) :
    expression.occurrences = expression.leaves.filterMap TokenForm.name? := by
  induction expression with
  | literal value => rfl
  | identifier name => rfl
  | comparison operator left right leftHypothesis rightHypothesis =>
      rw [occurrences, leaves, List.filterMap_append, leftHypothesis, rightHypothesis]
  | logical connective operands inductionHypothesis =>
      rw [occurrences, leaves]
      induction operands with
      | nil => rfl
      | cons operand rest restHypothesis =>
          have first := inductionHypothesis operand List.mem_cons_self
          have others := restHypothesis fun other member =>
            inductionHypothesis other (List.mem_cons_of_mem operand member)
          rw [listOccurrences, listLeaves, List.filterMap_append, first, others]
  | unary operator operand inductionHypothesis =>
      rw [occurrences, leaves, inductionHypothesis]

end Expression

namespace Grammar

/-- A phrase has the literals and the names of its tokens as leaves, each of them once and in the
order of the tokens. -/
theorem Derives.leaves {forms : List TokenForm} {phrase : Phrase} {depths : List Nat}
    (derived : Derives forms phrase depths) :
    phrase.trees.flatMap Expression.leaves = forms.filter TokenForm.isLeaf := by
  induction derived with
  | literal value => rfl
  | identifier name => rfl
  | parenthesis inner inductionHypothesis =>
      simpa [Phrase.trees, TokenForm.isLeaf] using inductionHypothesis
  | primary only inductionHypothesis => exact inductionHypothesis
  | not spelling inner inductionHypothesis =>
      simpa [Phrase.trees, TokenForm.isLeaf, Expression.leaves] using inductionHypothesis
  | minus inner inductionHypothesis =>
      simpa [Phrase.trees, TokenForm.isLeaf, Expression.leaves] using inductionHypothesis
  | unary only inductionHypothesis => exact inductionHypothesis
  | comparison operator before last beforeHypothesis lastHypothesis =>
      rw [List.filter_append, List.filter_cons_of_neg (by simp [TokenForm.isLeaf]),
        ← beforeHypothesis, ← lastHypothesis]
      simp [Phrase.trees, Expression.leaves]
  | last only inductionHypothesis =>
      rw [Phrase.trees_operand] at inductionHypothesis
      exact inductionHypothesis
  | more spelling head tail headHypothesis tailHypothesis =>
      rw [Phrase.trees_operand] at headHypothesis
      rw [List.filter_append, List.filter_cons_of_neg (by simp [TokenForm.isLeaf]),
        ← headHypothesis, ← tailHypothesis]
      simp [Phrase.trees]
  | single only inductionHypothesis => exact inductionHypothesis
  | logical run several inductionHypothesis =>
      rw [← inductionHypothesis]
      simp [Phrase.trees, Expression.leaves, Expression.listLeaves_eq]

theorem Sentence.leaves {forms : List TokenForm} {tree : Expression} {depths : List Nat}
    (sentence : Sentence forms tree depths) : tree.leaves = forms.filter TokenForm.isLeaf := by
  have leaves := Derives.leaves sentence
  rwa [Phrase.trees, List.flatMap_singleton] at leaves

end Grammar

/-- A name is listed exactly when it is a lexeme of its own among those of the text. -/
theorem ConsistsOf.mem_names {text : List Char} {words : List (List Char × TokenForm)}
    (consists : ConsistsOf text words) {name : String} :
    name ∈ (words.map Prod.snd).filterMap TokenForm.name? ↔
      (name.toList, .identifier name) ∈ words := by
  rw [List.mem_filterMap]
  constructor
  · rintro ⟨form, member, named⟩
    obtain ⟨word, found, rfl⟩ := List.mem_map.mp member
    obtain ⟨lexeme, form⟩ := word
    obtain rfl : form = .identifier name := TokenForm.name?_eq_some.mp named
    obtain ⟨rest, read⟩ := consists.exists_isReadAs found
    obtain rfl : lexeme = name.toList := read.lexeme_of_identifier
    exact found
  · intro found
    exact ⟨.identifier name, List.mem_map_of_mem found, rfl⟩

/-- The leaves of a tree are the literals and the names among the tokens of its text, each once and
in order, and the names of the text are these names without those that came before. Each of them is
no keyword in any letter case and stands in the text as a lexeme of its own, so never inside the
lexeme of a string. -/
theorem identifiers_of_tokens {text : String} {tree : Expression} (parsed : parse text = .ok tree) :
    ∃ stream words, tokenize text = .ok stream ∧ ConsistsOf text.toList words ∧
      stream.body.map Token.form = words.map Prod.snd ∧
      tree.leaves = (stream.body.map Token.form).filter TokenForm.isLeaf ∧
      detectIdentifiers text =
        .ok (firstSeen ((stream.body.map Token.form).filterMap TokenForm.name?)) ∧
      ∀ names, detectIdentifiers text = .ok names → ∀ name,
        (name ∈ names ↔ (name.toList, .identifier name) ∈ words) ∧
        (name ∈ names → IsName name) := by
  obtain ⟨stream, depths, read, sentence, -⟩ := Grammar.sentence_of_parse parsed
  obtain ⟨words, consists, same⟩ := ConsistsOf.of_tokens (Cursor.ofText text) read
  have leaves := sentence.leaves
  have detected : detectIdentifiers text =
      .ok (firstSeen ((stream.body.map Token.form).filterMap TokenForm.name?)) := by
    rw [detectIdentifiers, parsed, ← TokenForm.filterMap_name?_filter, ← leaves,
      ← Expression.occurrences_eq, ← Expression.identifiers_eq]
    rfl
  refine ⟨stream, words, read, consists, same, leaves, detected, ?_⟩
  intro names found name
  rw [detected] at found
  cases found
  have listed : name ∈ firstSeen ((stream.body.map Token.form).filterMap TokenForm.name?) ↔
      (name.toList, .identifier name) ∈ words := by
    rw [Recency.mem_firstSeen, same]
    exact consists.mem_names
  refine ⟨listed, fun member => ?_⟩
  obtain ⟨rest, isRead⟩ := consists.exists_isReadAs (listed.mp member)
  exact isRead.isSpellable

/-- The name inside the string and the keyword are not listed, and the other name is listed once. -/
theorem identifiers_of_tokens_string : ∃ tree stream words,
    parse "b == 'a' AND b" = .ok tree ∧ tokenize "b == 'a' AND b" = .ok stream ∧
      ConsistsOf "b == 'a' AND b".toList words ∧
      tree.leaves = (stream.body.map Token.form).filter TokenForm.isLeaf ∧
      detectIdentifiers "b == 'a' AND b" = .ok ["b"] ∧ ("a".toList, .identifier "a") ∉ words := by
  have detected : detectIdentifiers "b == 'a' AND b" = .ok ["b"] := by
    decide +kernel
  obtain ⟨tree, parsed, -⟩ := Outcome.map_eq_ok.mp detected
  obtain ⟨stream, words, read, consists, -, leaves, -, named⟩ := identifiers_of_tokens parsed
  refine ⟨tree, stream, words, parsed, read, consists, leaves, detected, fun member => ?_⟩
  have listed := (named ["b"] detected "a").1.mpr member
  exact absurd listed (by decide)

end Predicates
