/-
This file states properties of all nodes of a tree.
-/

import Predicates.Proofs.Expression.Structure

namespace Predicates.Expression

/-- Each node of the tree has the property. -/
def Everywhere (holds : Expression → Prop) (tree : Expression) : Prop :=
  ∀ node, HasNode tree node → holds node

variable {holds : Expression → Prop} {left right operand : Expression}
variable {operands : List Expression}

theorem everywhere_literal {value : Literal} :
    (literal value).Everywhere holds ↔ holds (literal value) := by
  constructor
  · intro all
    exact all _ (.root _)
  · intro root node below
    cases below
    exact root

theorem everywhere_identifier {name : String} :
    (identifier name).Everywhere holds ↔ holds (identifier name) := by
  constructor
  · intro all
    exact all _ (.root _)
  · intro root node below
    cases below
    exact root

theorem everywhere_comparison {operator : Comparison} :
    (comparison operator left right).Everywhere holds ↔
      holds (comparison operator left right) ∧ left.Everywhere holds ∧ right.Everywhere holds := by
  constructor
  · intro all
    exact ⟨all _ (.root _), fun node below => all node (.left below),
      fun node below => all node (.right below)⟩
  · rintro ⟨root, inLeft, inRight⟩ node below
    cases below with
    | root => exact root
    | left below => exact inLeft node below
    | right below => exact inRight node below

theorem everywhere_logical {connective : Connective} :
    (logical connective operands).Everywhere holds ↔
      holds (logical connective operands) ∧ ∀ operand ∈ operands, operand.Everywhere holds := by
  constructor
  · intro all
    exact ⟨all _ (.root _), fun operand member node below => all node (.operand member below)⟩
  · rintro ⟨root, inOperands⟩ node below
    cases below with
    | root => exact root
    | operand member below => exact inOperands _ member node below

theorem everywhere_unary {operator : UnaryOperator} :
    (unary operator operand).Everywhere holds ↔
      holds (unary operator operand) ∧ operand.Everywhere holds := by
  constructor
  · intro all
    exact ⟨all _ (.root _), fun node below => all node (.inner below)⟩
  · rintro ⟨root, inOperand⟩ node below
    cases below with
    | root => exact root
    | inner below => exact inOperand node below

theorem Everywhere.mono {tree : Expression} {weaker : Expression → Prop}
    (everywhere : tree.Everywhere holds) (implies : ∀ node, holds node → weaker node) :
    tree.Everywhere weaker :=
  fun node below => implies node (everywhere node below)

end Predicates.Expression
