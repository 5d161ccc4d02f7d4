/-
This file binds the values of parameters by their names.
-/

import Predicates.Failure
import Predicates.Keyed

namespace Predicates

/-- Parameters have distinct names and are kept in order. -/
abbrev Parameters := Keyed fun parameter : String × Value => parameter.1

namespace Parameters

def value? (parameters : Parameters) (name : String) : Option Value :=
  (parameters.find? name).map Prod.snd

/-- Each parameter becomes a slot of the kind that its value declares. -/
def slots (parameters : Parameters) : List Slot :=
  parameters.items.map fun parameter => ⟨parameter.1, parameter.2.declaredKind⟩

/-- A name without a parameter is bound to null. -/
def restrict (parameters : Parameters) (names : List String) : Parameters :=
  .ofList (names.map fun name => (name, (parameters.value? name).getD .null))

def missing (parameters : Parameters) (names : List String) : List String :=
  names.filter fun name => (parameters.value? name).isNone

def values (parameters : Parameters) (names : List String) : List Value :=
  names.filterMap parameters.value?

end Parameters

def compileFor (text : String) (parameters : Parameters) : Except Failure Compiled :=
  (compile text parameters.slots).mapError .ofCompile

/-- The parameters must be exactly those that the expression was compiled for. -/
def Compiled.executeByName (compiled : Compiled) (parameters : Parameters) :
    Except Failure Bool :=
  let expected := compiled.slots.length
  let missing := parameters.missing compiled.parameterNames
  if parameters.size ≠ expected then
    .error (.binding (.arity expected parameters.size))
  else if missing ≠ [] then
    .error (.binding (.missing expected parameters.size missing))
  else
    (compiled.execute (parameters.values compiled.parameterNames)).mapError .ofExecution

/-- The parameters of a single evaluation are compiled and bound in the same order. -/
def evaluateBound (text : String) (parameters : Parameters) : Except Failure Bool := do
  let compiled ← compileFor text parameters
  (compiled.execute (parameters.items.map Prod.snd)).mapError .ofExecution

end Predicates
