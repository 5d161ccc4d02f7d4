/-
This file lists every way in which a compiled expression can end over the values it was bound to.
-/

import Predicates.Proofs.Expression.Signals

namespace Predicates

theorem Value.mismatch_of_truth {value : Value} {error : EvaluationError}
    (failed : value.truth = .error error) : error.isMismatch = true := by
  cases value with
  | null => simp [Value.truth] at failed
  | bool truth => simp [Value.truth] at failed
  | _ =>
      cases failed
      rfl

/-- A run has a truth value, or it ends for a mismatch or for a signal. -/
theorem Bound.endsWith_of_run {compiled : Compiled} {values : List Value} {bound : Bound}
    {kind : Kind} {error : EvaluationError} (binds : compiled.bind values = .ok bound)
    (checked : compiled.root.check compiled.slots = .ok kind) (failed : bound.run = .error error) :
    compiled.root.EndsWith bound.environment error := by
  have admits : Admits compiled.slots bound.environment := admits binds
  obtain ⟨rfl, -, -⟩ := Compiled.bind_eq_ok binds
  rcases Outcome.bind_eq_error.mp failed with evaluateFailed | ⟨value, -, truthFailed⟩
  · exact Expression.endsWith_of_error admits checked evaluateFailed
  · exact Or.inl (Value.mismatch_of_truth truthFailed)

/-- A compiled expression has a truth value, or it fails for a mismatch, or a decimal raises a
signal in it. Equality and order raise signals only for sides that are or hold signaling numbers,
and negation only for decimals that cannot be negated. -/
theorem execution_outcomes {text : String} {slots : List Slot} {compiled : Compiled}
    {values : List Value} {bound : Bound} (compiles : compile text slots = .ok compiled)
    (binds : compiled.bind values = .ok bound) :
    ((∃ truth, compiled.execute values = .ok truth) ∨
      (∃ error, compiled.execute values = .error (.evaluation error) ∧ error.isMismatch = true) ∨
      ∃ signal, compiled.execute values = .error (.evaluation (.decimal signal)) ∧
        compiled.root.Signals bound.environment signal) ∧
    (∀ left right : Value, ¬ left.Signaling → ¬ right.Signaling →
      (∃ truth, left.equals right = .ok truth) ∧ ∃ order, left.compare right = .ok order) ∧
    ∀ (value : Value) (error : EvaluationError), value.negate = .error error →
      error.isMismatch = true ∨ ∃ decimal signal, value = .number (.decimal decimal) ∧
        decimal.negate = .error signal ∧ error = .decimal signal := by
  refine ⟨?_, fun left right => Value.compared_of_not_signaling,
    fun value error => Value.negate_eq_error⟩
  obtain ⟨rfl, kind, checked, -⟩ := compile_eq_ok compiles
  rw [Compiled.execute_of_bind binds]
  cases ran : bound.run with
  | ok truth =>
      left
      exact ⟨truth, rfl⟩
  | error error =>
      right
      rcases Bound.endsWith_of_run binds checked ran with mismatch | ⟨signal, rfl, raised⟩
      · exact Or.inl ⟨error, rfl, mismatch⟩
      · exact Or.inr ⟨signal, rfl, raised⟩

/-- A decimal past the largest exponent is accepted, but it has no negation. -/
theorem execution_outcomes_overflow : ∃ compiled bound,
    compile "-x < 1 || y" [⟨"x", .decimal⟩, ⟨"y", .bool⟩] = .ok compiled ∧
      compiled.bind [.number (.decimal (.finite false 1 1000000)), .bool true] = .ok bound ∧
      ∃ signal,
        compiled.execute [.number (.decimal (.finite false 1 1000000)), .bool true] =
          .error (.evaluation (.decimal signal)) ∧
        compiled.root.Signals bound.environment signal := by
  let root : Expression := .logical .or
    [.comparison .below (.unary .minus (.identifier "x")) (.literal (.integer 1)), .identifier "y"]
  let compiled : Compiled := ⟨"-x < 1 || y", [⟨"x", .decimal⟩, ⟨"y", .bool⟩], root, .bool⟩
  let values : List Value := [.number (.decimal (.finite false 1 1000000)), .bool true]
  have compiles : compile "-x < 1 || y" [⟨"x", .decimal⟩, ⟨"y", .bool⟩] = .ok compiled := by
    with_unfolding_all rfl
  have binds : compiled.bind values = .ok ⟨compiled, values⟩ := rfl
  have failed : compiled.execute values = .error (.evaluation (.decimal .overflow)) := by
    with_unfolding_all rfl
  rcases (execution_outcomes compiles binds).1 with
    ⟨truth, impossible⟩ | ⟨error, impossible, mismatch⟩ | raised
  · rw [failed] at impossible
    cases impossible
  · rw [failed] at impossible
    cases impossible
    cases mismatch
  · exact ⟨compiled, ⟨compiled, values⟩, compiles, binds, raised⟩

/-- A signaling decimal is accepted for its slot, and then an equality with it raises a signal. -/
theorem execution_of_signaling : ∃ compiled,
    compile "x == 1" [⟨"x", .decimal⟩] = .ok compiled ∧
      compiled.execute [.number (.decimal (.signalingNaN false 0))] =
        .error (.evaluation (.decimal .invalidOperation)) ∧
      EvaluationError.isMismatch (.decimal .invalidOperation) = false ∧
      Value.equals (.number (.decimal (.signalingNaN false 0))) (.number (.integer 1)) =
        .error .invalidOperation := by
  let root : Expression := .comparison .equal (.identifier "x") (.literal (.integer 1))
  let compiled : Compiled := ⟨"x == 1", [⟨"x", .decimal⟩], root, .bool⟩
  have compiles : compile "x == 1" [⟨"x", .decimal⟩] = .ok compiled := by
    with_unfolding_all rfl
  exact ⟨compiled, compiles, rfl, rfl, rfl⟩

/-- The members of lists are compared up to the first pair that differs, unless one object is on both
sides. -/
example :
    let signaling (object : Nat) : Value := .number (.decimal (.signalingNaN false 0 object))
    let one : Value := .number (.integer 1)
    Value.equals (.list [one, signaling 1]) (.list [one, one]) = .error .invalidOperation ∧
      Value.equals (.list [.null, signaling 1]) (.list [one, one]) = .ok false ∧
      Value.equals (.list [one, signaling 1]) (.list [one]) = .ok false ∧
      Value.equals (.list [one, signaling 1]) (.list [one, signaling 1]) = .ok true ∧
      Value.equals (.list [one, signaling 1]) (.list [one, signaling 2]) =
        .error .invalidOperation :=
  ⟨rfl, rfl, rfl, rfl, rfl⟩

end Predicates
