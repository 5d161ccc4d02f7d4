/-
This file shows that an evaluation binds every name of its text, so that it never fails for a
binding.
-/

import Predicates.Proofs.Binding.Answer
import Predicates.Proofs.Cache.Recency
import Predicates.Proofs.Expression.Execution
import Predicates.Proofs.Session.Transparency

namespace Predicates

namespace Failure

/-- A name has no slot or no value, or the values do not match the slots. -/
def concernsBinding : Failure → Bool
  | .typing (.unresolved _) => true
  | .binding _ => true
  | .evaluation (.unbound _) => true
  | _ => false

/-- A kind is refused by the check of a sign, for a slot, or during the evaluation. -/
def isMismatch : Failure → Bool
  | .typing (.operandNotNumeric _) => true
  | .binding (.misfit ..) => true
  | .evaluation error => error.isMismatch
  | _ => false

theorem concernsBinding_of_mismatch {error : EvaluationError} (mismatch : error.isMismatch = true) :
    (evaluation error).concernsBinding = false := by
  cases error with
  | unbound name => cases mismatch
  | _ => rfl

end Failure

/-- The parameters have a fitting value for each of their slots. -/
theorem Parameters.admits (parameters : Parameters) :
    Admits parameters.slots parameters.value? := by
  intro name kind slotted
  rw [kindOf?_slots] at slotted
  obtain ⟨value, found, rfl⟩ := Option.map_eq_some_iff.mp slotted
  exact ⟨value, found, value.fits_declaredKind⟩

namespace Expression

variable {root node : Expression} {parameters : Parameters} {failure : Failure}

/-- The parameters give a value to each name of the tree. -/
def BoundBy (root : Expression) (parameters : Parameters) : Prop :=
  ∀ name ∈ root.occurrences, ∃ value, parameters.value? name = some value

/-- A restriction to the names of a tree binds the tree. -/
theorem boundBy_restrict (root : Expression) (parameters : Parameters) :
    root.BoundBy (parameters.restrict root.identifiers) := by
  intro name occurs
  have member : name ∈ root.identifiers := Expression.mem_identifiers.mpr occurs
  rw [Parameters.value?_restrict, if_pos member]
  exact ⟨_, rfl⟩

/-- A sign refuses the kind of its operand in the check. After the check, an operator refuses a
value, or the whole tree has no truth value. -/
inductive Mismatched (root : Expression) (parameters : Parameters) : Failure → Prop where
  | sign {operand : Expression} {kind : Kind} (below : root.HasNode (.unary .minus operand))
      (checked : operand.check parameters.slots = .ok kind)
      (refused : (kind.isNumeric || kind = .object) = false) :
      Mismatched root parameters (.typing (.operandNotNumeric kind))
  | operator {kind : Kind} {node : Expression} {error : EvaluationError}
      (checked : root.check parameters.slots = .ok kind)
      (failed : root.evaluate parameters.value? = .error error) (below : root.HasNode node)
      (fails : node.FailsEvaluation parameters.value? error) :
      Mismatched root parameters (.evaluation error)
  | result {kind : Kind} {value : Value} {error : EvaluationError}
      (checked : root.check parameters.slots = .ok kind)
      (evaluated : root.evaluate parameters.value? = .ok value)
      (refused : value.truth = .error error) :
      Mismatched root parameters (.evaluation error)

/-- An answer fails in the check, at the kind of the whole tree, in the evaluation or at the value
of the whole tree. -/
theorem answerOver_eq_error (failed : root.answerOver parameters = .error failure) :
    (∃ error, failure = .typing error ∧ root.check parameters.slots = .error error) ∨
    ∃ kind, root.check parameters.slots = .ok kind ∧
      (failure = .typing (.resultNotCondition kind) ∨
        ∃ error, failure = .evaluation error ∧ (root.evaluate parameters.value? = .error error ∨
          ∃ value, root.evaluate parameters.value? = .ok value ∧ value.truth = .error error)) := by
  rcases Outcome.bind_eq_error.mp failed with checkFailed | ⟨kind, checked, failed⟩
  · obtain ⟨error, checkFailed, same⟩ := Outcome.mapError_eq_error.mp checkFailed
    exact Or.inl ⟨error, same.symm, checkFailed⟩
  · refine Or.inr ⟨kind, Outcome.mapError_eq_ok.mp checked, ?_⟩
    split at failed
    · obtain ⟨error, ranFailed, rfl⟩ := Outcome.mapError_eq_error.mp failed
      exact Or.inr ⟨error, rfl, Outcome.bind_eq_error.mp ranFailed⟩
    · cases failed
      exact Or.inl rfl

/-- No name of a bound tree lacks a slot. -/
theorem BoundBy.resolved {error : TypingError} (bound : root.BoundBy parameters)
    (below : root.HasNode node) (fails : node.FailsCheck parameters.slots error) :
    (Failure.typing error).concernsBinding = false := by
  cases fails with
  | @identifier name missing =>
      obtain ⟨value, found⟩ := bound name (hasNode_identifier_iff.mp below)
      rw [Parameters.kindOf?_slots, found] at missing
      cases missing
  | chain member checked refused => rfl
  | not checked refused => rfl
  | minus checked refused => rfl

/-- The answer over parameters that bind the tree does not fail for a binding. -/
theorem BoundBy.concernsBinding_eq_false (bound : root.BoundBy parameters)
    (failed : root.answerOver parameters = .error failure) : failure.concernsBinding = false := by
  rcases answerOver_eq_error failed with
    ⟨error, rfl, checkFailed⟩ |
    ⟨kind, checked, rfl | ⟨error, rfl, evaluateFailed | ⟨value, -, refused⟩⟩⟩
  · obtain ⟨node, below, fails⟩ := exists_failsCheck checkFailed
    exact bound.resolved below fails
  · rfl
  · rcases endsWith_of_error parameters.admits checked evaluateFailed with
      mismatch | ⟨signal, rfl, -⟩
    · exact Failure.concernsBinding_of_mismatch mismatch
    · rfl
  · exact Failure.concernsBinding_of_mismatch (Value.mismatch_of_truth refused)

/-- A mismatch in an answer comes from a sign, from an operator or from the result. -/
theorem mismatched_of_answerOver (failed : root.answerOver parameters = .error failure)
    (mismatch : failure.isMismatch = true) : root.Mismatched parameters failure := by
  rcases answerOver_eq_error failed with
    ⟨error, rfl, checkFailed⟩ |
    ⟨kind, checked, rfl | ⟨error, rfl, evaluateFailed | ⟨value, evaluated, refused⟩⟩⟩
  · obtain ⟨node, below, fails⟩ := exists_failsCheck checkFailed
    cases fails with
    | minus operandChecked refused => exact .sign below operandChecked refused
    | _ => cases mismatch
  · cases mismatch
  · obtain ⟨node, below, fails⟩ := exists_failsEvaluation evaluateFailed
    exact .operator checked evaluateFailed below fails
  · exact .result checked evaluated refused

end Expression

/-- The names of a text are the names of its tree. -/
theorem detectDirectly_eq_ok {text : String} {names : List String}
    (detected : detectDirectly text = .ok names) :
    ∃ root, parse text = .ok root ∧ root.identifiers = names :=
  Outcome.map_eq_ok.mp (Outcome.mapError_eq_ok.mp detected)

namespace Session

variable {session : Session} {text : String} {parameters : Parameters}

/-- A lookup that succeeds finds the names of the tree. -/
theorem Faithful.parse_of_detect (faithful : session.Faithful) {names : List String}
    (detected : (session.detect text).1 = .ok names) :
    ∃ root, parse text = .ok root ∧ root.identifiers = names := by
  rw [faithful.detect_eq_readiness] at detected
  obtain ⟨-, -, detected⟩ := Outcome.bind_eq_ok.mp detected
  exact detectDirectly_eq_ok detected

/-- A lookup fails for a setting or for the text itself. -/
theorem Faithful.failure_of_detect (faithful : session.Faithful) {failure : Failure}
    (failed : (session.detect text).1 = .error failure) :
    failure.concernsBinding = false ∧ failure.isMismatch = false := by
  rw [faithful.detect_eq_readiness] at failed
  rcases Outcome.bind_eq_error.mp failed with unready | ⟨-, -, unread⟩
  · obtain ⟨error, -, rfl⟩ := Outcome.mapError_eq_error.mp unready
    exact ⟨rfl, rfl⟩
  · obtain ⟨error, -, rfl⟩ := Outcome.mapError_eq_error.mp unread
    exact ⟨rfl, rfl⟩

/-- An evaluation fails in its lookup, or its tree has no answer over the names of the text. -/
theorem Faithful.evaluate_eq_error (faithful : session.Faithful) {failure : Failure}
    (failed : (session.evaluate text parameters).1 = .error failure) :
    (session.detect text).1 = .error failure ∨
      ∃ root, parse text = .ok root ∧
        root.answerOver (parameters.restrict root.identifiers) = .error failure := by
  rw [evaluate_eq_bind] at failed
  rcases Outcome.bind_eq_error.mp failed with unread | ⟨names, detected, failed⟩
  · exact Or.inl unread
  · obtain ⟨root, parsed, rfl⟩ := faithful.parse_of_detect detected
    rw [evaluateBound_eq_answerOver, parsed] at failed
    exact Or.inr ⟨root, parsed, failed⟩

/-- The values that a lookup leaves are bound to the compiled text, and each of its names has a
value. -/
theorem Faithful.binds_names (faithful : session.Faithful) {names : List String}
    {compiled : Compiled} (detected : (session.detect text).1 = .ok names)
    (compiles : compileFor text (parameters.restrict names) = .ok compiled) :
    ∃ bound, compiled.bind ((parameters.restrict names).items.map Prod.snd) = .ok bound ∧
      ∀ name ∈ compiled.root.occurrences, ∃ value, bound.environment name = some value := by
  have compiles := Outcome.mapError_eq_ok.mp compiles
  obtain ⟨root, parsed, rfl⟩ := faithful.parse_of_detect detected
  obtain rfl : root = compiled.root :=
    Except.ok.inj (parsed.symm.trans (parse_of_compile compiles))
  have same := (compile_eq_ok compiles).1
  refine ⟨_, Parameters.bind_items same, ?_⟩
  rw [Parameters.environment_items same]
  exact compiled.root.boundBy_restrict parameters

/-- Whatever was requested before, an evaluation gives each name of its text a slot and a value.
What it fails to read, the lookup of the names fails to read, and a mismatch comes from the check
of a sign, from an operator or from the result. -/
theorem evaluate_binds_names (before : List Request) (text : String) (parameters : Parameters) :
    let session := start.after before
    (∀ names compiled, (session.detect text).1 = .ok names →
      compileFor text (parameters.restrict names) = .ok compiled →
      ∃ bound, compiled.bind ((parameters.restrict names).items.map Prod.snd) = .ok bound ∧
        ∀ name ∈ compiled.root.occurrences, ∃ value, bound.environment name = some value) ∧
    ∀ failure, (session.evaluate text parameters).1 = .error failure →
      failure.concernsBinding = false ∧
      (∀ error, failure = .source error → (session.detect text).1 = .error failure) ∧
      (failure.isMismatch = true → ∃ root, parse text = .ok root ∧
        root.Mismatched (parameters.restrict root.identifiers) failure) := by
  intro session
  have faithful : session.Faithful := faithful_start.after before
  refine ⟨fun names compiled => faithful.binds_names, ?_⟩
  intro failure failed
  rcases faithful.evaluate_eq_error failed with unread | ⟨root, parsed, failed⟩
  · obtain ⟨named, matched⟩ := faithful.failure_of_detect unread
    refine ⟨named, fun _ _ => unread, fun mismatch => ?_⟩
    rw [matched] at mismatch
    cases mismatch
  · refine ⟨(root.boundBy_restrict parameters).concernsBinding_eq_false failed, ?_, ?_⟩
    · rintro error rfl
      rcases Expression.answerOver_eq_error failed with
        ⟨other, impossible, -⟩ | ⟨kind, -, impossible | ⟨other, impossible, -⟩⟩ <;>
      cases impossible
    · intro mismatch
      exact ⟨root, parsed, Expression.mismatched_of_answerOver failed mismatch⟩

/-- A name without a parameter is bound to null, and a conjunction refuses this value. -/
theorem evaluate_binds_names_missing :
    let session := start.after [.configure (some 1), .detect "b"]
    let refused : Failure := .evaluation (.operandNotBoolean (.chain .and) .null)
    (session.evaluate "b && true" .empty).1 = .error refused ∧
      ∃ root, parse "b && true" = .ok root ∧
        root.Mismatched (Parameters.restrict .empty root.identifiers) refused := by
  intro session refused
  have failed : (session.evaluate "b && true" .empty).1 = .error refused := by
    with_unfolding_all rfl
  obtain ⟨-, outcomes⟩ := evaluate_binds_names [.configure (some 1), .detect "b"] "b && true" .empty
  exact ⟨failed, (outcomes refused failed).2.2 rfl⟩

end Session

end Predicates
