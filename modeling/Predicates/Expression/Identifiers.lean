/-
This file finds the names that an expression refers to.
-/

import Predicates.Expression.Parser

namespace Predicates

/-- Each name is kept where it stands first. -/
def firstSeen : List String → List String
  | [] => []
  | name :: rest => name :: (firstSeen rest).filter (· ≠ name)

namespace Expression

/-- A name stands behind the names that were noted before it, and it is noted only once. -/
def note (names : List String) (name : String) : List String :=
  if names.contains name then names else names ++ [name]

/-- The operands of a node are put on the stack in reverse, so that the leftmost one is visited
first. -/
def visit (stack : Array Expression) (names : List String) : List String :=
  match _ : stack.back? with
  | none => names
  | some (.identifier name) => visit stack.pop (note names name)
  | some node => visit (stack.pop ++ node.children.reverse) names
termination_by totalSize stack.toList
decreasing_by
  · rw [toList_of_back? stack ‹_›]
    simp only [totalSize_append, totalSize, size]
    omega
  · rw [toList_of_back? stack ‹_›, Array.toList_appendList]
    simp only [totalSize_append, totalSize_reverse, totalSize, size_eq node]
    omega

def identifiers (expression : Expression) : List String :=
  visit #[expression] []

end Expression

/-- The names of a text can be found without knowing any values. -/
def detectIdentifiers (text : String) : Except SourceError (List String) :=
  (parse text).map Expression.identifiers

end Predicates
