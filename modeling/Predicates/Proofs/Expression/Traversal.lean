/-
This file shows that the nodes taken from a stack give the names of an expression from left to right
and the height of its tree.
-/

import Predicates.Expression.Identifiers
import Predicates.Proofs.Cache.Recency
import Mathlib.Order.MinMax

namespace Predicates.Expression

mutual

/-- A leaf has height one. -/
def height : Expression → Nat
  | .literal _ => 1
  | .identifier _ => 1
  | .comparison _ left right => max left.height right.height + 1
  | .logical _ operands => greatestHeight operands + 1
  | .unary _ operand => operand.height + 1

def greatestHeight : List Expression → Nat
  | [] => 0
  | operand :: rest => max operand.height (greatestHeight rest)

end

theorem height_eq (node : Expression) : node.height = greatestHeight node.children + 1 := by
  cases node <;> simp [height, greatestHeight, children]

theorem lt_greatestHeight_iff {nodes : List Expression} {limit : Nat} :
    limit < greatestHeight nodes ↔ ∃ node ∈ nodes, limit < node.height := by
  induction nodes with
  | nil => simp [greatestHeight]
  | cons first rest inductionHypothesis =>
      rw [greatestHeight, lt_max_iff, inductionHypothesis]
      simp

/-- A node that is not too deep itself has one below it that is when a child has. -/
theorem deeper_iff {limit depth : Nat} (node : Expression) (shallow : depth ≤ limit) :
    limit + 1 < node.height + depth ↔
      ∃ child ∈ node.children, limit + 1 < child.height + (depth + 1) := by
  have room : limit + 1 < node.height + depth ↔ limit - depth < greatestHeight node.children := by
    rw [height_eq]
    omega
  rw [room, lt_greatestHeight_iff]
  refine exists_congr fun child => and_congr_right fun _ => ?_
  omega

/-- The search finds a node that is too deep when one of the waiting ones is too high for its depth. -/
theorem anyDeeperThan_iff {limit : Nat} {stack : Array (Expression × Nat)} :
    anyDeeperThan limit stack = true ↔
      ∃ waiting ∈ stack.toList, limit + 1 < waiting.1.height + waiting.2 := by
  fun_induction anyDeeperThan limit stack with
  | case1 stack empty =>
      rw [Array.back?_eq_none_iff] at empty
      simp [empty]
  | case2 stack node depth found deep =>
      have high : limit + 1 < node.height + depth := by
        rw [height_eq]
        omega
      rw [toList_of_back? stack found]
      simp [high]
  | case3 stack node depth found shallow inductionHypothesis =>
      rw [inductionHypothesis, toList_of_back? stack found, Array.toList_appendList]
      simp [or_and_right, exists_or, deeper_iff node (Nat.le_of_not_lt shallow)]

/-- A tree is refused exactly when it is higher than the limit. -/
theorem isDeeperThan_iff {limit : Nat} {tree : Expression} :
    tree.isDeeperThan limit = true ↔ limit < tree.height := by
  simp [isDeeperThan, anyDeeperThan_iff]

mutual

/-- The names are listed from left to right, each as often as it stands in the expression. -/
def occurrences : Expression → List String
  | .literal _ => []
  | .identifier name => [name]
  | .comparison _ left right => left.occurrences ++ right.occurrences
  | .logical _ operands => listOccurrences operands
  | .unary _ operand => operand.occurrences

def listOccurrences : List Expression → List String
  | [] => []
  | operand :: rest => operand.occurrences ++ listOccurrences rest

end

theorem listOccurrences_eq (nodes : List Expression) :
    listOccurrences nodes = nodes.flatMap occurrences := by
  induction nodes with
  | nil => rfl
  | cons first rest inductionHypothesis =>
      rw [listOccurrences, inductionHypothesis, List.flatMap_cons]

/-- A node that is not a name has the names of its children. -/
theorem occurrences_of_children {node : Expression} (inner : ∀ name, node ≠ .identifier name) :
    node.occurrences = node.children.flatMap occurrences := by
  cases node with
  | identifier name => exact absurd rfl (inner name)
  | _ => simp [occurrences, children, listOccurrences_eq]

/-- The names of the waiting nodes are noted one after the other, beginning with the last node. -/
theorem visit_eq (stack : Array Expression) (names : List String) :
    visit stack names = (stack.toList.reverse.flatMap occurrences).foldl note names := by
  fun_induction visit stack names with
  | case1 stack names empty =>
      rw [Array.back?_eq_none_iff] at empty
      simp [empty]
  | case2 stack names name found inductionHypothesis =>
      rw [inductionHypothesis, toList_of_back? stack found]
      simp [occurrences]
  | case3 stack names node inner found inductionHypothesis =>
      -- The reversed children stand behind the stack, so they come first and in their own order.
      rw [inductionHypothesis, toList_of_back? stack found, Array.toList_appendList]
      simp [occurrences_of_children inner]

/-- Noting names one after the other keeps each where it stands first. -/
theorem foldl_note (names : List String) : names.foldl note [] = firstSeen names := by
  induction names using List.reverseRecOn with
  | nil => rfl
  | append_singleton names name inductionHypothesis =>
      rw [List.foldl_append, inductionHypothesis, Recency.firstSeen_append_singleton]
      simp [note, Recency.mem_firstSeen]

/-- The names are found in the order of the text, each where it stands first. -/
theorem identifiers_eq (expression : Expression) :
    expression.identifiers = firstSeen expression.occurrences := by
  rw [identifiers, visit_eq, ← foldl_note]
  simp

theorem mem_identifiers {expression : Expression} {name : String} :
    name ∈ expression.identifiers ↔ name ∈ expression.occurrences := by
  rw [identifiers_eq, Recency.mem_firstSeen]

end Predicates.Expression
