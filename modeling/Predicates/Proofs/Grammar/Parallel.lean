/-
This file runs the parser on two lists of tokens that differ only in the places of the tokens and in
the spelling of logical operators.
-/

import Predicates.Proofs.Grammar.Completeness
import Predicates.Proofs.Lexing.Layout

namespace Predicates

section Plain

variable (form : TokenForm)

theorem connectiveOf?_plain : Parser.connectiveOf? form.plain = Parser.connectiveOf? form := by
  cases form <;> rfl

theorem comparisonOf?_plain : Parser.comparisonOf? form.plain = Parser.comparisonOf? form := by
  cases form <;> rfl

theorem plain_eq_closing : form.plain = .closing ↔ form = .closing := by
  cases form <;> simp [TokenForm.plain]

end Plain

namespace Parser

variable {A : Type} {related : Token → Token → Prop}

/-- Two errors of this kind have the same reason and point at related tokens. -/
def SameFault (related : Token → Token → Prop) (left right : ParseError) : Prop :=
  left.failure = right.failure ∧ related left.token right.token

/-- Two readings of this kind have the same result and leave related tokens. -/
def SameReading (related : Token → Token → Prop) (left right : A × List Token) : Prop :=
  left.1 = right.1 ∧ List.Forall₂ related left.2 right.2

/-- The steps give the same result for related tokens. -/
def Parallel (related : Token → Token → Prop) (left right : Step) : Prop :=
  ∀ tokens others, List.Forall₂ related tokens others →
    Outcome.Alike (SameFault related) (SameReading related) (left.run tokens) (right.run others)

section Rows

variable {left right : Step}
  (plain : ∀ token other, related token other → token.form.plain = other.form.plain)
  (steps : Parallel related left right)
include plain steps

theorem moreOperands_parallel (connective : Connective) {tokens others : List Token}
    (alike : List.Forall₂ related tokens others) :
    Outcome.Alike (SameFault related) (SameReading related) (moreOperands connective left tokens)
      (moreOperands connective right others) := by
  -- An operand may use any number of tokens, so the induction is on how many are left.
  induction length : tokens.length using Nat.strongRecOn generalizing tokens others with
  | ind count inductionHypothesis =>
      cases alike with
      | nil =>
          rw [moreOperands, moreOperands]
          exact .ok ⟨rfl, .nil⟩
      | @cons token other rest otherRest head tail =>
          have sameSign : connectiveOf? token.form = connectiveOf? other.form := by
            rw [← connectiveOf?_plain, plain token other head, connectiveOf?_plain]
          by_cases announced : connectiveOf? token.form = some connective
          · rw [Grammar.moreOperands_announced announced,
              Grammar.moreOperands_announced (sameSign.symm.trans announced)]
            refine (steps rest otherRest tail).bind fun next otherNext read related => ?_
            have shorter : next.2.length < count := by
              have := left.shorter rest next read
              rw [← length, List.length_cons]
              omega
            refine (inductionHypothesis _ shorter related.2 rfl).map fun later otherLater same => ?_
            exact ⟨by rw [related.1, same.1], same.2⟩
          · rw [moreOperands, if_neg announced, moreOperands, if_neg (sameSign ▸ announced)]
            exact .ok ⟨rfl, .cons head tail⟩

theorem chain_parallel (connective : Connective) :
    Parallel related (chain connective left) (chain connective right) := by
  intro tokens others alike
  refine (steps tokens others alike).bind fun first otherFirst _ related => ?_
  refine (moreOperands_parallel plain steps connective related.2).bind
    fun later otherLater _ same => ?_
  exact .ok ⟨by rw [related.1, same.1], same.2⟩

theorem moreComparisons_parallel (tree : Expression) {tokens others : List Token}
    (alike : List.Forall₂ related tokens others) :
    Outcome.Alike (SameFault related) (SameReading related) (moreComparisons left tree tokens)
      (moreComparisons right tree others) := by
  induction length : tokens.length using Nat.strongRecOn generalizing tree tokens others with
  | ind count inductionHypothesis =>
      cases alike with
      | nil =>
          rw [moreComparisons, moreComparisons]
          exact .ok ⟨rfl, .nil⟩
      | @cons token other rest otherRest head tail =>
          have sameSign : comparisonOf? token.form = comparisonOf? other.form := by
            rw [← comparisonOf?_plain, plain token other head, comparisonOf?_plain]
          cases announced : comparisonOf? token.form with
          | some operator =>
              rw [Grammar.moreComparisons_announced announced,
                Grammar.moreComparisons_announced (sameSign.symm.trans announced)]
              refine (steps rest otherRest tail).bind fun next otherNext read related => ?_
              have shorter : next.2.length < count := by
                have := left.shorter rest next read
                rw [← length, List.length_cons]
                omega
              rw [← related.1]
              exact inductionHypothesis _ shorter _ related.2 rfl
          | none =>
              have ends : ∀ last ∈ (token :: rest).head?, comparisonOf? last.form = none := by
                intro last member
                cases member
                exact announced
              have otherEnds : ∀ last ∈ (other :: otherRest).head?,
                  comparisonOf? last.form = none := by
                intro last member
                cases member
                exact sameSign.symm.trans announced
              rw [Grammar.moreComparisons_end ends, Grammar.moreComparisons_end otherEnds]
              exact .ok ⟨rfl, .cons head tail⟩

theorem comparisons_parallel : Parallel related (comparisons left) (comparisons right) := by
  intro tokens others alike
  refine (steps tokens others alike).bind fun first otherFirst _ related => ?_
  rw [← related.1]
  exact moreComparisons_parallel plain steps first.1 related.2

theorem expression_parallel : Parallel related (expression left) (expression right) :=
  chain_parallel plain (chain_parallel plain (comparisons_parallel plain steps) .and) .or

end Rows

/-- The plain form of its first token decides how an operand is read. -/
theorem runOperand_cons {stop token : Token} {nested enclosed : Step} {rest : List Token} :
    runOperand stop nested enclosed (token :: rest) =
      match token.form.plain with
      | .literal value => .ok (.literal value, rest)
      | .identifier name => .ok (.identifier name, rest)
      | .not _ => (nested.run rest).map fun inner => (.unary .not inner.1, inner.2)
      | .minus => (nested.run rest).map fun inner => (.unary .minus inner.1, inner.2)
      | .opening => (enclosed.run rest).bind (closeParenthesis stop)
      | .stop => .error ⟨.unexpectedEnd, token⟩
      | _ => .error ⟨.unexpectedToken, token⟩ := by
  rw [runOperand]
  cases token.form <;> rfl

section Operands

variable {stop otherStop : Token}
  (plain : ∀ token other, related token other → token.form.plain = other.form.plain)
  (stops : related stop otherStop)
include stops

theorem tooDeep_parallel : Parallel related (tooDeep stop) (tooDeep otherStop) := by
  intro tokens others alike
  cases alike with
  | nil => exact .error ⟨rfl, stops⟩
  | cons head tail => exact .error ⟨rfl, head⟩

include plain

theorem closeParenthesis_parallel {inner other : Reading} (alike : SameReading related inner other) :
    Outcome.Alike (SameFault related) (SameReading related) (closeParenthesis stop inner)
      (closeParenthesis otherStop other) := by
  obtain ⟨tree, rest⟩ := inner
  obtain ⟨otherTree, otherRest⟩ := other
  obtain ⟨sameTree, sameRest⟩ := alike
  cases sameRest with
  | nil => exact .error ⟨rfl, stops⟩
  | @cons token other rest otherRest head tail =>
      have sameClosing : token.form = .closing ↔ other.form = .closing := by
        rw [← plain_eq_closing, plain token other head, plain_eq_closing]
      simp only [closeParenthesis]
      by_cases closing : token.form = .closing
      · rw [if_pos closing, if_pos (sameClosing.mp closing)]
        exact .ok ⟨sameTree, tail⟩
      · rw [if_neg closing, if_neg fun other => closing (sameClosing.mpr other)]
        exact .error ⟨rfl, head⟩

theorem operandWith_parallel {nested otherNested enclosed otherEnclosed : Step}
    (operands : Parallel related nested otherNested)
    (expressions : Parallel related enclosed otherEnclosed) :
    Parallel related (operandWith stop nested enclosed)
      (operandWith otherStop otherNested otherEnclosed) := by
  intro tokens others alike
  cases alike with
  | nil => exact .error ⟨rfl, stops⟩
  | @cons token other rest otherRest head tail =>
      change Outcome.Alike _ _ (runOperand stop nested enclosed (token :: rest))
        (runOperand otherStop otherNested otherEnclosed (other :: otherRest))
      rw [runOperand_cons, runOperand_cons, ← plain token other head]
      cases token.form.plain with
      | literal value => exact .ok ⟨rfl, tail⟩
      | identifier name => exact .ok ⟨rfl, tail⟩
      | comparison operator => exact .error ⟨rfl, head⟩
      | connective connective spelling => exact .error ⟨rfl, head⟩
      | not spelling =>
          exact (operands rest otherRest tail).map fun inner otherInner same =>
            ⟨by rw [same.1], same.2⟩
      | minus =>
          exact (operands rest otherRest tail).map fun inner otherInner same =>
            ⟨by rw [same.1], same.2⟩
      | opening =>
          exact (expressions rest otherRest tail).bind fun inner otherInner _ same =>
            closeParenthesis_parallel plain stops same
      | closing => exact .error ⟨rfl, head⟩
      | stop => exact .error ⟨rfl, head⟩

/-- Operands are alike at every depth. -/
theorem operand_parallel (room : Nat) :
    Parallel related (operand stop room) (operand otherStop room) := by
  induction room with
  | zero =>
      exact operandWith_parallel plain stops (tooDeep_parallel stops) (tooDeep_parallel stops)
  | succ room inductionHypothesis =>
      exact operandWith_parallel plain stops inductionHypothesis
        (expression_parallel plain inductionHypothesis)

end Operands

end Parser

/-- Streams of related tokens have the same tree, or their parse errors point at related tokens. -/
theorem TokenStream.parse_alike {related : Token → Token → Prop} {first second : TokenStream}
    (plain : ∀ token other, related token other → token.form.plain = other.form.plain)
    (bodies : List.Forall₂ related first.body second.body) (stops : related first.stop second.stop) :
    Outcome.Alike (Parser.SameFault related) Eq first.parse second.parse := by
  obtain ⟨body, stop⟩ := first
  obtain ⟨otherBody, otherStop⟩ := second
  have operands := Parser.operand_parallel plain stops nestingLimit
  have read := Parser.expression_parallel plain operands body otherBody bodies
  cases bodies with
  | nil => exact .error ⟨rfl, stops⟩
  | cons head tail =>
      refine read.bind fun reading other _ same => ?_
      obtain ⟨tree, rest⟩ := reading
      obtain ⟨otherTree, otherRest⟩ := other
      obtain ⟨sameTree, sameRest⟩ := same
      obtain rfl : tree = otherTree := sameTree
      cases sameRest with
      | cons next behind => exact .error ⟨rfl, next⟩
      | nil =>
          by_cases high : tree.isDeeperThan nestingLimit = true
          · simp only [if_pos high]
            exact .error ⟨rfl, head⟩
          · simp only [if_neg high]
            exact .ok rfl

end Predicates
