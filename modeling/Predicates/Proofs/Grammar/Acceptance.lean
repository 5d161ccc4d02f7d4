/-
This file shows that exactly the sentences of the grammar within both limits are expressions, and
that a sentence has only one tree.
-/

import Predicates.Proofs.Expression.Traversal
import Predicates.Proofs.Grammar.Completeness
import Predicates.Proofs.Grammar.Nesting
import Mathlib.Data.List.MinMax

namespace Predicates.Grammar

open Predicates.Parser

/-- A stream is parsed exactly when its tokens are a sentence and neither limit is passed. -/
theorem stream_parse_eq_ok {stream : TokenStream} {tree : Expression} :
    stream.parse = .ok tree ↔
      (∃ depths, Sentence (stream.body.map Token.form) tree depths ∧ Within nestingLimit depths) ∧
        tree.height ≤ nestingLimit := by
  obtain ⟨body, stop⟩ := stream
  cases body with
  | nil =>
      constructor
      · intro parsed
        simp [TokenStream.parse] at parsed
      · rintro ⟨⟨depths, derived, -⟩, -⟩
        exact absurd rfl derived.ne_nil
  | cons token rest =>
      constructor
      · intro parsed
        obtain ⟨⟨found, behind⟩, foundReading, parsed⟩ := Outcome.bind_eq_ok.mp parsed
        cases behind with
        | cons token behind => simp at parsed
        | nil =>
            by_cases high : found.isDeeperThan nestingLimit = true
            · simp [high] at parsed
            · simp only [if_neg high, Except.ok.injEq] at parsed
              obtain ⟨used, depths, split, derived, within⟩ :=
                expressionAt_sound stop nestingLimit _ _ foundReading
              rw [List.append_nil] at split
              rw [split, ← parsed]
              rw [Expression.isDeeperThan_iff] at high
              exact ⟨⟨depths, derived, within⟩, Nat.le_of_not_lt high⟩
      · rintro ⟨⟨depths, derived, within⟩, low⟩
        have read := expressionAt_complete derived within stop
        have shallow : ¬ tree.isDeeperThan nestingLimit = true := by
          rw [Expression.isDeeperThan_iff]
          exact Nat.not_lt.mpr low
        simp only [TokenStream.parse, read, bind, Except.bind, if_neg shallow]

theorem parse_eq_ok_of_stream {text : String} {stream : TokenStream} {tree : Expression}
    (read : tokenize text = .ok stream) : parse text = .ok tree ↔ stream.parse = .ok tree := by
  rw [parse, read]
  exact Outcome.mapError_eq_ok

/-- The tokens of a text with a tree are a sentence, and neither limit is passed. -/
theorem sentence_of_parse {text : String} {tree : Expression} (parsed : parse text = .ok tree) :
    ∃ stream depths, tokenize text = .ok stream ∧
      Sentence (stream.body.map Token.form) tree depths ∧ Within nestingLimit depths ∧
        tree.height ≤ nestingLimit := by
  cases read : tokenize text with
  | error error => simp [parse, read] at parsed
  | ok stream =>
      rw [parse_eq_ok_of_stream read, stream_parse_eq_ok] at parsed
      obtain ⟨⟨depths, sentence, within⟩, low⟩ := parsed
      exact ⟨stream, depths, rfl, sentence, within, low⟩

/-- Some limit holds for any two lists of depths. -/
theorem exists_within (first second : List Nat) :
    ∃ limit, Within limit first ∧ Within limit second := by
  refine ⟨(first ++ second).foldr max 0, ?_, ?_⟩
  · intro depth member
    exact List.le_max_of_le' 0 (List.mem_append_left second member) (Nat.le_refl depth)
  · intro depth member
    exact List.le_max_of_le' 0 (List.mem_append_right first member) (Nat.le_refl depth)

/-- The parser reads one tree only, so a sentence has only one. -/
theorem sentence_unique {forms : List TokenForm} {first second : Expression}
    {firstDepths secondDepths : List Nat} (firstDerived : Sentence forms first firstDepths)
    (secondDerived : Sentence forms second secondDepths) :
    first = second ∧ firstDepths = secondDepths := by
  constructor
  · -- Only the forms of tokens matter to the parser, so any location will do.
    let tokens := forms.map fun form => (⟨form, Location.start⟩ : Token)
    have formsOf : tokens.map Token.form = forms := by
      simp [tokens, List.map_map, Function.comp_def]
    obtain ⟨limit, firstWithin, secondWithin⟩ := exists_within firstDepths secondDepths
    rw [← formsOf] at firstDerived secondDerived
    let stop : Token := ⟨.stop, Location.start⟩
    have firstRead := expressionAt_complete firstDerived firstWithin stop
    have secondRead := expressionAt_complete secondDerived secondWithin stop
    rw [firstRead] at secondRead
    exact congrArg Prod.fst (Except.ok.inj secondRead)
  · exact firstDerived.countDepths_eq.symm.trans secondDerived.countDepths_eq

/-- A text is an expression exactly when its tokens are a sentence of the grammar, at most fifty
parentheses and unary operators enclose each of them, and the tree is at most fifty high. The
tokens decide the tree and the nesting. -/
theorem parse_eq_ok_iff_sentence :
    (∀ (text : String) (tree : Expression),
      parse text = .ok tree ↔ ∃ stream depths, tokenize text = .ok stream ∧
        Sentence (stream.body.map Token.form) tree depths ∧
        (∀ depth ∈ depths, depth ≤ 50) ∧ tree.height ≤ 50) ∧
    ∀ (forms : List TokenForm) (first second : Expression) (firstDepths secondDepths : List Nat),
      Sentence forms first firstDepths → Sentence forms second secondDepths →
        first = second ∧ firstDepths = secondDepths := by
  constructor
  · intro text tree
    constructor
    · exact sentence_of_parse
    · rintro ⟨stream, depths, found, derived, within, low⟩
      rw [parse_eq_ok_of_stream found, stream_parse_eq_ok]
      exact ⟨⟨depths, derived, within⟩, low⟩
  · intro forms first second firstDepths secondDepths firstDerived secondDerived
    exact sentence_unique firstDerived secondDerived

end Predicates.Grammar
