/-
This file shows that the parser reads only what the grammar derives.
-/

import Predicates.Proofs.Grammar.Derivation
import Predicates.Proofs.Outcome

namespace Predicates.Grammar

open Predicates.Parser

/-- The tokens before the rest derive the phrase within the limit. -/
def Reads (limit : Nat) (phrase : Phrase) (tokens rest : List Token) : Prop :=
  ∃ used depths, tokens = used ++ rest ∧ Derives (used.map Token.form) phrase depths ∧
    Within limit depths

/-- A sound step reads only such tokens. -/
def Sound (limit : Nat) (phrase : Expression → Phrase) (step : Step) : Prop :=
  ∀ tokens reading, step.run tokens = .ok reading →
    Reads limit (phrase reading.1) tokens reading.2

/-- A sound nested step leaves room for the token that opens it. -/
def NestedSound (limit : Nat) (phrase : Expression → Phrase) (step : Step) : Prop :=
  ∀ tokens reading, step.run tokens = .ok reading →
    ∃ inner < limit, Reads inner (phrase reading.1) tokens reading.2

namespace Reads

variable {limit inner : Nat} {tokens rest after : List Token} {token : Token}

/-- A rule that only renames a phrase keeps its tokens. -/
theorem rename {old new : Phrase} (read : Reads limit old tokens rest)
    (rule : ∀ {forms depths}, Derives forms old depths → Derives forms new depths) :
    Reads limit new tokens rest := by
  obtain ⟨used, depths, split, derived, within⟩ := read
  exact ⟨used, depths, split, rule derived, within⟩

/-- A leaf is a single token outside all nesting. -/
theorem leaf {phrase : Phrase} (derived : Derives [token.form] phrase [0]) :
    Reads limit phrase (token :: rest) rest :=
  ⟨[token], [0], rfl, derived, by simp [Within]⟩

theorem enclose {old new : Phrase} (read : Reads inner old tokens rest) (room : inner < limit)
    (rule : ∀ {forms depths}, Derives forms old depths →
      Derives (token.form :: forms) new (0 :: depths.map (· + 1))) :
    Reads limit new (token :: tokens) rest := by
  obtain ⟨used, depths, split, derived, within⟩ := read
  refine ⟨token :: used, 0 :: depths.map (· + 1), by rw [split]; rfl, rule derived, ?_⟩
  have outer : Within (inner + 1) (depths.map (· + 1)) := Within.map_succ.mpr within
  intro depth member
  rcases List.mem_cons.mp member with rfl | nested
  · exact Nat.zero_le limit
  · exact Nat.le_trans (outer depth nested) room

theorem parenthesis {closing : Token} {tree : Expression}
    (read : Reads inner (.chain .or tree) tokens (closing :: rest)) (room : inner < limit)
    (opens : token.form = .opening) (closes : closing.form = .closing) :
    Reads limit (.primary tree) (token :: tokens) rest := by
  obtain ⟨used, depths, split, derived, within⟩ := read
  refine ⟨token :: (used ++ [closing]), 0 :: (depths.map (· + 1) ++ [0]), ?_, ?_, ?_⟩
  · rw [split]
    simp
  · simp only [List.map_cons, List.map_append, List.map_nil, opens, closes]
    exact Derives.parenthesis derived
  · have outer : Within (inner + 1) (depths.map (· + 1)) := Within.map_succ.mpr within
    intro depth member
    simp only [List.mem_cons, List.mem_append, List.not_mem_nil, or_false] at member
    rcases member with rfl | nested | rfl
    · exact Nat.zero_le limit
    · exact Nat.le_trans (outer depth nested) room
    · exact Nat.zero_le limit

/-- Two phrases with a sign between them are read one after the other. -/
theorem join {left right new : Phrase} (first : Reads limit left tokens (token :: rest))
    (second : Reads limit right rest after)
    (rule : ∀ {leftForms rightForms leftDepths rightDepths},
      Derives leftForms left leftDepths → Derives rightForms right rightDepths →
      Derives (leftForms ++ token.form :: rightForms) new (leftDepths ++ 0 :: rightDepths)) :
    Reads limit new tokens after := by
  obtain ⟨leftUsed, leftDepths, leftSplit, leftDerived, leftWithin⟩ := first
  obtain ⟨rightUsed, rightDepths, rightSplit, rightDerived, rightWithin⟩ := second
  refine ⟨leftUsed ++ token :: rightUsed, leftDepths ++ 0 :: rightDepths, ?_, ?_, ?_⟩
  · rw [leftSplit, rightSplit]
    simp
  · rw [List.map_append, List.map_cons]
    exact rule leftDerived rightDerived
  · exact Within.append_cons_zero.mpr ⟨leftWithin, rightWithin⟩

end Reads

theorem connectiveOf?_eq_some {form : TokenForm} {connective : Connective}
    (found : connectiveOf? form = some connective) :
    ∃ spelling, form = .connective connective spelling := by
  cases form <;> simp_all [connectiveOf?]

theorem comparisonOf?_eq_some {form : TokenForm} {operator : Comparison}
    (found : comparisonOf? form = some operator) : form = .comparison operator := by
  cases form <;> simp_all [comparisonOf?]

theorem closeParenthesis_eq_ok {stop : Token} {inner reading : Reading}
    (found : closeParenthesis stop inner = .ok reading) :
    ∃ closing, inner.2 = closing :: reading.2 ∧ closing.form = .closing ∧ inner.1 = reading.1 := by
  unfold closeParenthesis at found
  split at found
  · simp at found
  · rename_i closing after behind
    split at found
    · rename_i closes
      cases found
      exact ⟨closing, behind, closes, rfl⟩
    · simp at found

section Rows

variable {limit : Nat} {operand : Step} {tokens middle : List Token}

/-- The operands that follow a first one make up a run with it. -/
theorem moreOperands_sound {connective : Connective} {first : Expression}
    {others : List Expression × List Token}
    (sound : Sound limit (Phrase.operand connective) operand)
    (head : Reads limit (Phrase.operand connective first) tokens middle)
    (found : moreOperands connective operand middle = .ok others) :
    Reads limit (.run connective (first :: others.1)) tokens others.2 := by
  fun_induction moreOperands connective operand middle generalizing first tokens others with
  | case1 =>
      cases found
      exact head.rename Derives.last
  | case2 => simp at found
  | case3 token rest announced next foundNext inductionHypothesis =>
      obtain ⟨later, foundLater, rfl⟩ := Outcome.map_eq_ok.mp found
      obtain ⟨spelling, form⟩ := connectiveOf?_eq_some announced
      have run := inductionHypothesis (sound rest next foundNext) foundLater
      exact head.join run fun first others => by
        rw [form]
        exact Derives.more spelling first others
  | case4 =>
      cases found
      exact head.rename Derives.last

/-- A chain is one operand or a node with at least two of them. -/
theorem chain_sound {connective : Connective}
    (sound : Sound limit (Phrase.operand connective) operand) :
    Sound limit (.chain connective) (chain connective operand) := by
  intro tokens reading found
  obtain ⟨first, foundFirst, found⟩ := Outcome.bind_eq_ok.mp found
  obtain ⟨⟨trees, rest⟩, foundOthers, found⟩ := Outcome.bind_eq_ok.mp found
  have run := moreOperands_sound sound (sound tokens first foundFirst) foundOthers
  cases found
  cases trees with
  | nil => exact run.rename Derives.single
  | cons second trees => exact run.rename fun derived => Derives.logical derived (by simp)

theorem moreComparisons_sound {left : Expression} {reading : Reading}
    (sound : Sound limit .unary operand)
    (before : Reads limit (.comparison left) tokens middle)
    (found : moreComparisons operand left middle = .ok reading) :
    Reads limit (.comparison reading.1) tokens reading.2 := by
  fun_induction moreComparisons operand left middle with
  | case1 =>
      cases found
      exact before
  | case2 =>
      cases found
      exact before
  | case3 => simp at found
  | case4 left token rest operator announced right foundRight inductionHypothesis =>
      have form := comparisonOf?_eq_some announced
      apply inductionHypothesis _ found
      exact before.join (sound rest right foundRight) fun leftDerived rightDerived => by
        rw [form]
        exact Derives.comparison operator leftDerived rightDerived

theorem comparisons_sound (sound : Sound limit .unary operand) :
    Sound limit .comparison (comparisons operand) := by
  intro tokens reading found
  obtain ⟨left, foundLeft, foundMore⟩ := Outcome.bind_eq_ok.mp found
  have before := (sound tokens left foundLeft).rename Derives.unary
  exact moreComparisons_sound sound before foundMore

theorem expression_sound (sound : Sound limit .unary operand) :
    Sound limit (.chain .or) (expression operand) :=
  chain_sound (chain_sound (comparisons_sound sound))

end Rows

/-- An operand is sound when the steps that it nests are. -/
theorem operandWith_sound {limit : Nat} {stop : Token} {nestedOperand nestedExpression : Step}
    (soundOperand : NestedSound limit .unary nestedOperand)
    (soundExpression : NestedSound limit (.chain .or) nestedExpression) :
    Sound limit .unary (operandWith stop nestedOperand nestedExpression) := by
  intro tokens reading found
  cases tokens with
  | nil => simp [operandWith, runOperand] at found
  | cons token rest =>
      simp only [operandWith, runOperand] at found
      split at found
      · rename_i value form
        cases found
        exact Reads.leaf (form ▸ Derives.primary (Derives.literal value))
      · rename_i name form
        cases found
        exact Reads.leaf (form ▸ Derives.primary (Derives.identifier name))
      · rename_i spelling form
        obtain ⟨operand, foundOperand, rfl⟩ := Outcome.map_eq_ok.mp found
        obtain ⟨depth, room, read⟩ := soundOperand rest operand foundOperand
        exact read.enclose room fun derived => form ▸ Derives.not spelling derived
      · rename_i form
        obtain ⟨operand, foundOperand, rfl⟩ := Outcome.map_eq_ok.mp found
        obtain ⟨depth, room, read⟩ := soundOperand rest operand foundOperand
        exact read.enclose room fun derived => form ▸ Derives.minus derived
      · rename_i form
        obtain ⟨inner, foundInner, foundClosing⟩ := Outcome.bind_eq_ok.mp found
        obtain ⟨depth, room, read⟩ := soundExpression rest inner foundInner
        obtain ⟨closing, behind, closes, same⟩ := closeParenthesis_eq_ok foundClosing
        rw [behind, same] at read
        exact (read.parenthesis room form closes).rename Derives.primary
      · simp at found
      · simp at found

/-- The operands with so much room are nested no deeper than the room. -/
theorem operand_sound (stop : Token) (room : Nat) : Sound room .unary (operand stop room) := by
  induction room with
  | zero =>
      have nothing (phrase : Expression → Phrase) : NestedSound 0 phrase (tooDeep stop) := by
        intro tokens reading found
        simp [tooDeep] at found
      exact operandWith_sound (nothing .unary) (nothing (.chain .or))
  | succ room inductionHypothesis =>
      apply operandWith_sound
      · intro tokens reading found
        exact ⟨room, Nat.lt_succ_self room, inductionHypothesis tokens reading found⟩
      · intro tokens reading found
        exact ⟨room, Nat.lt_succ_self room,
          expression_sound inductionHypothesis tokens reading found⟩

theorem expressionAt_sound (stop : Token) (room : Nat) :
    Sound room (.chain .or) (expressionAt stop room) :=
  expression_sound (operand_sound stop room)

end Predicates.Grammar
