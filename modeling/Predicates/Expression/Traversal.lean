/-
This file takes the nodes of expressions from a stack, and measures with it how deep they stand.
-/

import Predicates.Expression

namespace Predicates

namespace Expression

/-- The operands of a node stand in the order of the text. -/
def children : Expression → List Expression
  | .literal _ => []
  | .identifier _ => []
  | .comparison _ left right => [left, right]
  | .logical _ operands => operands
  | .unary _ operand => [operand]

mutual

/-- The size counts the nodes. -/
def size : Expression → Nat
  | .literal _ => 1
  | .identifier _ => 1
  | .comparison _ left right => left.size + right.size + 1
  | .logical _ operands => totalSize operands + 1
  | .unary _ operand => operand.size + 1

def totalSize : List Expression → Nat
  | [] => 0
  | operand :: rest => operand.size + totalSize rest

end

theorem size_eq (node : Expression) : node.size = totalSize node.children + 1 := by
  cases node <;> simp [size, totalSize, children]

theorem totalSize_append (front back : List Expression) :
    totalSize (front ++ back) = totalSize front + totalSize back := by
  induction front with
  | nil => simp [totalSize]
  | cons first rest inductionHypothesis =>
    simp only [List.cons_append, totalSize, inductionHypothesis]
    omega

theorem totalSize_reverse (nodes : List Expression) :
    totalSize nodes.reverse = totalSize nodes := by
  induction nodes with
  | nil => rfl
  | cons first rest inductionHypothesis =>
    simp only [List.reverse_cons, totalSize_append, totalSize, inductionHypothesis]
    omega

end Expression

/-- What was put on a stack last is taken from it first. -/
theorem toList_of_back? {A : Type} (stack : Array A) {top : A} (found : stack.back? = some top) :
    stack.toList = stack.pop.toList ++ [top] := by
  obtain ⟨below, rfl⟩ := Array.back?_eq_some_iff.mp found
  simp only [Array.pop_push, Array.toList_push]

namespace Expression

/-- Each node waits on the stack with its depth, and the search ends at the first one that stands
deeper than the limit. -/
def anyDeeperThan (limit : Nat) (stack : Array (Expression × Nat)) : Bool :=
  match _ : stack.back? with
  | none => false
  | some (node, depth) =>
    if limit < depth then true
    else anyDeeperThan limit (stack.pop ++ node.children.map fun child => (child, depth + 1))
termination_by totalSize (stack.toList.map Prod.fst)
decreasing_by
  rw [toList_of_back? stack ‹_›, Array.toList_appendList]
  simp only [List.map_append, List.map_map, Function.comp_def, List.map_id', List.map_cons,
    List.map_nil, totalSize_append, totalSize, size_eq node]
  omega

/-- The root has depth one. -/
def isDeeperThan (limit : Nat) (expression : Expression) : Bool :=
  anyDeeperThan limit #[(expression, 1)]

end Expression

end Predicates
