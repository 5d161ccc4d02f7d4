/-
This file holds the grammar of expressions and counts how deep each token is nested.
-/

import Predicates.Expression.Parser

namespace Predicates.Grammar

/-- A phrase is a rule of the grammar together with what it stands for. The operands of a chain
are read as a run of their own. -/
inductive Phrase where
  | chain (connective : Connective) (tree : Expression)
  | run (connective : Connective) (operands : List Expression)
  | comparison (tree : Expression)
  | unary (tree : Expression)
  | primary (tree : Expression)

/-- Disjunctions join conjunctions, and conjunctions join comparisons. -/
def Phrase.operand : Connective → Expression → Phrase
  | .or, tree => .chain .and tree
  | .and, tree => .comparison tree

/-- The trees that a phrase stands for. -/
def Phrase.trees : Phrase → List Expression
  | .run _ operands => operands
  | .chain _ tree => [tree]
  | .comparison tree => [tree]
  | .unary tree => [tree]
  | .primary tree => [tree]

theorem Phrase.trees_operand (connective : Connective) (tree : Expression) :
    (Phrase.operand connective tree).trees = [tree] := by
  cases connective <;> rfl

/-- The tokens derive the phrase. The depths say for each token how many parentheses and unary
operators enclose it. -/
inductive Derives : List TokenForm → Phrase → List Nat → Prop where
  | literal (value : Literal) :
      Derives [.literal value] (.primary (.literal value)) [0]
  | identifier (name : String) :
      Derives [.identifier name] (.primary (.identifier name)) [0]
  | parenthesis {tokens : List TokenForm} {tree : Expression} {depths : List Nat}
      (inner : Derives tokens (.chain .or tree) depths) :
      Derives (.opening :: (tokens ++ [.closing])) (.primary tree)
        (0 :: (depths.map (· + 1) ++ [0]))
  | primary {tokens : List TokenForm} {tree : Expression} {depths : List Nat}
      (only : Derives tokens (.primary tree) depths) :
      Derives tokens (.unary tree) depths
  | not {tokens : List TokenForm} {tree : Expression} {depths : List Nat} (spelling : Spelling)
      (inner : Derives tokens (.unary tree) depths) :
      Derives (.not spelling :: tokens) (.unary (.unary .not tree)) (0 :: depths.map (· + 1))
  | minus {tokens : List TokenForm} {tree : Expression} {depths : List Nat}
      (inner : Derives tokens (.unary tree) depths) :
      Derives (.minus :: tokens) (.unary (.unary .minus tree)) (0 :: depths.map (· + 1))
  | unary {tokens : List TokenForm} {tree : Expression} {depths : List Nat}
      (only : Derives tokens (.unary tree) depths) :
      Derives tokens (.comparison tree) depths
  | comparison {leftTokens rightTokens : List TokenForm} {left right : Expression}
      {leftDepths rightDepths : List Nat} (operator : Comparison)
      (before : Derives leftTokens (.comparison left) leftDepths)
      (last : Derives rightTokens (.unary right) rightDepths) :
      Derives (leftTokens ++ .comparison operator :: rightTokens)
        (.comparison (.comparison operator left right)) (leftDepths ++ 0 :: rightDepths)
  | last {connective : Connective} {tokens : List TokenForm} {tree : Expression}
      {depths : List Nat} (only : Derives tokens (Phrase.operand connective tree) depths) :
      Derives tokens (.run connective [tree]) depths
  | more {connective : Connective} {firstTokens tokens : List TokenForm} {first : Expression}
      {operands : List Expression} {firstDepths depths : List Nat} (spelling : Spelling)
      (head : Derives firstTokens (Phrase.operand connective first) firstDepths)
      (tail : Derives tokens (.run connective operands) depths) :
      Derives (firstTokens ++ .connective connective spelling :: tokens)
        (.run connective (first :: operands)) (firstDepths ++ 0 :: depths)
  | single {connective : Connective} {tokens : List TokenForm} {tree : Expression}
      {depths : List Nat} (only : Derives tokens (.run connective [tree]) depths) :
      Derives tokens (.chain connective tree) depths
  | logical {connective : Connective} {tokens : List TokenForm} {operands : List Expression}
      {depths : List Nat} (run : Derives tokens (.run connective operands) depths)
      (several : 2 ≤ operands.length) :
      Derives tokens (.chain connective (.logical connective operands)) depths

/-- The whole grammar starts with a disjunction. -/
def Sentence (tokens : List TokenForm) (tree : Expression) (depths : List Nat) : Prop :=
  Derives tokens (.chain .or tree) depths

/-- No token stands deeper than the limit. -/
def Within (limit : Nat) (depths : List Nat) : Prop :=
  ∀ depth ∈ depths, depth ≤ limit

namespace Within

variable {limit : Nat} {left right depths : List Nat}

/-- A phrase keeps the limit when both of its sides do and the sign between them is outside. -/
theorem append_cons_zero :
    Within limit (left ++ 0 :: right) ↔ Within limit left ∧ Within limit right := by
  simp only [Within, List.mem_append, List.mem_cons]
  constructor
  · intro within
    exact ⟨fun depth member => within depth (Or.inl member),
      fun depth member => within depth (Or.inr (Or.inr member))⟩
  · rintro ⟨leftWithin, rightWithin⟩ depth (member | rfl | member)
    · exact leftWithin depth member
    · exact Nat.zero_le limit
    · exact rightWithin depth member

/-- One more level of nesting takes one from the limit. -/
theorem map_succ : Within (limit + 1) (depths.map (· + 1)) ↔ Within limit depths := by
  simp only [Within, List.mem_map, forall_exists_index, and_imp, forall_apply_eq_imp_iff₂,
    Nat.add_le_add_iff_right]

/-- Something nested needs a limit above zero. -/
theorem pos_of_map_succ (nonempty : depths ≠ [])
    (within : Within limit (depths.map (· + 1))) : 0 < limit := by
  obtain ⟨depth, member⟩ := List.exists_mem_of_ne_nil depths nonempty
  have bound := within (depth + 1) (List.mem_map_of_mem member)
  omega

end Within

/-- Every token has a depth. -/
theorem Derives.length_eq {tokens : List TokenForm} {phrase : Phrase} {depths : List Nat}
    (derived : Derives tokens phrase depths) : depths.length = tokens.length := by
  induction derived <;> simp_all

/-- No phrase is derived from nothing. -/
theorem Derives.ne_nil {tokens : List TokenForm} {phrase : Phrase} {depths : List Nat}
    (derived : Derives tokens phrase depths) : tokens ≠ [] := by
  induction derived <;> simp_all

theorem Derives.depths_ne_nil {tokens : List TokenForm} {phrase : Phrase} {depths : List Nat}
    (derived : Derives tokens phrase depths) : depths ≠ [] := by
  rw [← List.length_pos_iff, derived.length_eq, List.length_pos_iff]
  exact derived.ne_nil

end Predicates.Grammar
