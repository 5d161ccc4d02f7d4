/-
This file shows that both ways of running an expression over parameters come down to the check and
the evaluation of its tree, each name with its own kind and value.
-/

import Predicates.Proofs.Binding.Lookup
import Predicates.Proofs.Expression.KindSoundness
import Predicates.Proofs.Expression.Locality

namespace Predicates

/-- Every value fits the kind that it declares. -/
theorem Value.fits_declaredKind (value : Value) : value.fits value.declaredKind = true := by
  rw [Value.fits_iff, Value.declaredKind]
  cases value with
  | number number => cases number <;> simp [Value.kind, Number.kind]
  | _ => simp [Value.kind]

/-- A tree is checked and evaluated over the parameters, and nothing else is looked at. -/
def Expression.answerOver (root : Expression) (parameters : Parameters) :
    Except Failure Bool := do
  let kind ← (root.check parameters.slots).mapError .typing
  if kind.isCondition then
    (root.evaluate parameters.value? >>= Value.truth).mapError .evaluation
  else throw (.typing (.resultNotCondition kind))

namespace Parameters

variable {parameters : Parameters} {compiled : Compiled}

/-- The slots admit the values they were made from. -/
theorem admit_slots (items : List (String × Value)) :
    Slot.admit (items.map fun item => ⟨item.1, item.2.declaredKind⟩) (items.map Prod.snd) =
      .ok () := by
  induction items with
  | nil => rfl
  | cons item rest inductionHypothesis =>
      rw [List.map_cons, List.map_cons, Slot.admit, if_pos (Value.fits_declaredKind item.2),
        inductionHypothesis]

theorem bind_items (same : compiled.slots = parameters.slots) :
    compiled.bind (parameters.items.map Prod.snd) =
      .ok ⟨compiled, parameters.items.map Prod.snd⟩ := by
  have length : (parameters.items.map Prod.snd).length = compiled.slots.length := by
    rw [same, slots, List.length_map, List.length_map]
  have admitted : Slot.admit compiled.slots (parameters.items.map Prod.snd) = .ok () := by
    rw [same]
    exact admit_slots parameters.items
  unfold Compiled.bind
  rw [if_pos length, admitted]
  rfl

/-- An expression that was compiled for the parameters is evaluated over their values. -/
theorem execute_items (same : compiled.slots = parameters.slots) :
    compiled.execute (parameters.items.map Prod.snd) =
      (compiled.root.evaluate parameters.value? >>= Value.truth).mapError .evaluation := by
  rw [Compiled.execute_of_bind (bind_items same), Bound.run, Bound.evaluate, environment_items same]

/-- By name, the same values are bound in the same order. -/
theorem executeByName_eq (same : compiled.slots = parameters.slots) :
    compiled.executeByName parameters =
      (compiled.execute (parameters.items.map Prod.snd)).mapError .ofExecution := by
  have names : compiled.parameterNames = parameters.items.map Prod.fst := by
    rw [Compiled.parameterNames, same, slots, List.map_map]
    rfl
  have size : parameters.size = compiled.slots.length := by
    rw [same, slots, List.length_map]
    rfl
  unfold Compiled.executeByName
  simp only [names, missing_names, values_names, size, ne_eq, not_true_eq_false, if_false]

end Parameters

/-- Whatever runs an expression that was compiled for the parameters gives the answer of its
tree. -/
theorem compileFor_bind_eq {text : String} {parameters : Parameters}
    {run : Compiled → Except Failure Bool}
    (runs : ∀ compiled, compiled.slots = parameters.slots →
      run compiled = (compiled.execute (parameters.items.map Prod.snd)).mapError .ofExecution) :
    (compileFor text parameters >>= run) =
      (parse text).mapError .source >>= fun root => root.answerOver parameters := by
  unfold compileFor compile
  cases parse text with
  | error error => rfl
  | ok root =>
      have ran : ∀ kind, run ⟨text, parameters.slots, root, kind⟩ =
          ((root.evaluate parameters.value? >>= Value.truth).mapError
            ExecutionError.evaluation).mapError .ofExecution := fun kind => by
        rw [runs _ rfl, Parameters.execute_items rfl]
      show _ = root.answerOver parameters
      unfold Expression.answerOver
      generalize (root.evaluate parameters.value? >>= Value.truth) = outcome at ran ⊢
      cases checked : root.check parameters.slots with
      | error error =>
          simp only [Outcome.mapError_ok, bind, Except.bind, checked]
          rfl
      | ok kind =>
          simp only [checked, Outcome.mapError_ok, bind, Except.bind]
          by_cases condition : kind.isCondition = true
          · simp only [condition, if_true, pure, Except.pure, Outcome.mapError_ok, ran]
            cases outcome <;> rfl
          · simp only [condition]
            rfl

/-- A single evaluation gives the answer of the tree. -/
theorem evaluateBound_eq_answerOver (text : String) (parameters : Parameters) :
    evaluateBound text parameters =
      (parse text).mapError .source >>= fun root => root.answerOver parameters :=
  compileFor_bind_eq fun _ _ => rfl

/-- An expression that is compiled first and run by name gives the answer of the tree too. -/
theorem executeByName_eq_answerOver (text : String) (parameters : Parameters) :
    (compileFor text parameters >>= fun compiled => compiled.executeByName parameters) =
      (parse text).mapError .source >>= fun root => root.answerOver parameters :=
  compileFor_bind_eq fun _ => Parameters.executeByName_eq

/-- Parameters that give the names of a tree the same values give the tree the same answer. -/
theorem Expression.answerOver_congr {root : Expression} {first second : Parameters}
    (agree : ∀ name ∈ root.occurrences, first.value? name = second.value? name) :
    root.answerOver first = root.answerOver second := by
  have checked : root.check first.slots = root.check second.slots := check_congr fun name member =>
    by rw [Parameters.kindOf?_slots, Parameters.kindOf?_slots, agree name member]
  unfold answerOver
  rw [checked, evaluate_congr agree]

end Predicates
