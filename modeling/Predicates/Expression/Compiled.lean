/-
This file holds expressions that are ready to be run over their parameters.
-/

import Predicates.Expression.Typing

namespace Predicates

/-- A compiled expression keeps its text, its slots in order and its tree. -/
structure Compiled where
  source : String
  slots : List Slot
  root : Expression
  resultKind : Kind

inductive CompileError where
  | source (error : SourceError)
  | typing (error : TypingError)
  deriving DecidableEq

def CompileError.message : CompileError → String
  | .source error => error.message
  | .typing error => error.message

namespace Compiled

def parameterNames (compiled : Compiled) : List String :=
  compiled.slots.map Slot.name

/-- The index lists every name once with the position of its slot. -/
def slotIndex (compiled : Compiled) : List (String × Nat) :=
  (firstSeen compiled.parameterNames).filterMap fun name =>
    (Slot.position? name compiled.slots).map fun position => (name, position)

end Compiled

/-- An expression compiles when its text can be read, every name has a slot, and its value is a
condition. -/
def compile (text : String) (slots : List Slot) : Except CompileError Compiled := do
  let root ← (parse text).mapError .source
  let kind ← (root.check slots).mapError .typing
  if kind.isCondition then return ⟨text, slots, root, kind⟩
  else throw (.typing (.resultNotCondition kind))

end Predicates
