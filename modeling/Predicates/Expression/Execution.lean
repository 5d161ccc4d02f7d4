/-
This file runs compiled expressions over the values of their parameters.
-/

import Predicates.Expression.Compiled
import Predicates.Expression.Evaluation

namespace Predicates

/-- Values are refused when they do not match the slots. -/
inductive BindingError where
  | arity (expected actual : Nat)
  | missing (expected actual : Nat) (names : List String)
  | misfit (name : String) (declared actual : Kind)
  deriving DecidableEq

def BindingError.message : BindingError → String
  | .arity expected actual => s!"Expected {expected} parameter value(s), got {actual}"
  | .missing _ _ names => "Missing value for parameter(s): " ++ String.intercalate ", " names
  | .misfit name declared actual =>
    s!"Parameter '{name}' declared {declared.name}, got {actual.name}"

inductive ExecutionError where
  | binding (error : BindingError)
  | evaluation (error : EvaluationError)
  deriving DecidableEq

/-- The first value that does not fit its slot is reported. -/
def Slot.admit : List Slot → List Value → Except BindingError Unit
  | slot :: slots, value :: values =>
    if value.fits slot.kind then Slot.admit slots values
    else .error (.misfit slot.name slot.kind value.kind)
  | _, _ => .ok ()

/-- A bound expression has a value for each slot. -/
structure Bound where
  compiled : Compiled
  values : List Value

namespace Bound

def environment (bound : Bound) (name : String) : Option Value :=
  (Slot.position? name bound.compiled.slots).bind fun position => bound.values[position]?

def evaluate (bound : Bound) : Except EvaluationError Value :=
  bound.compiled.root.evaluate bound.environment

def run (bound : Bound) : Except EvaluationError Bool := do
  let value ← bound.evaluate
  value.truth

end Bound

namespace Compiled

/-- There must be as many values as slots, and each must fit its slot. -/
def bind (compiled : Compiled) (values : List Value) : Except BindingError Bound := do
  if values.length = compiled.slots.length then
    Slot.admit compiled.slots values
    return ⟨compiled, values⟩
  else throw (.arity compiled.slots.length values.length)

def execute (compiled : Compiled) (values : List Value) : Except ExecutionError Bool := do
  let bound ← (compiled.bind values).mapError .binding
  bound.run.mapError .evaluation

end Compiled

end Predicates
