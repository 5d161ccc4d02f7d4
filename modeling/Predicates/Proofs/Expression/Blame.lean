/-
This file shows that a value of the wrong kind comes from an object slot or from a null value.
-/

import Predicates.Proofs.Expression.KindSoundness
import Predicates.Proofs.Expression.Origin

namespace Predicates

/-- An operator or the whole expression refuses a mismatch because of its kind. -/
def EvaluationError.isMismatch : EvaluationError → Bool
  | .operandNotBoolean .. => true
  | .resultNotBoolean _ => true
  | .operandNotNumeric _ => true
  | _ => false

/-- Values that do not fit their slots are mismatches too. -/
def ExecutionError.isMismatch : ExecutionError → Bool
  | .binding (.misfit ..) => true
  | .binding _ => false
  | .evaluation error => error.isMismatch

/-- The blame lies with a name of the expression that is declared as an object or bound to
null. -/
def Expression.Blamed (slots : List Slot) (environment : String → Option Value)
    (expression : Expression) : Prop :=
  ∃ name ∈ expression.occurrences,
    Slot.kindOf? slots name = some .object ∨ environment name = some .null

namespace Expression

variable {slots : List Slot} {environment : String → Option Value} {expression : Expression}

/-- The blame of an operand is the blame of the whole expression. -/
theorem Blamed.of_subset {operand : Expression} (blamed : operand.Blamed slots environment)
    (subset : ∀ name ∈ operand.occurrences, name ∈ expression.occurrences) :
    expression.Blamed slots environment := by
  obtain ⟨name, member, fault⟩ := blamed
  exact ⟨name, subset name member, fault⟩

theorem Blamed.of_operand {connective : Connective} {operands : List Expression}
    {operand : Expression} (blamed : operand.Blamed slots environment)
    (member : operand ∈ operands) :
    (Expression.logical connective operands).Blamed slots environment := by
  apply blamed.of_subset
  intro name found
  exact mem_listOccurrences.mpr ⟨operand, member, found⟩

theorem Blamed.of_unary {operator : UnaryOperator} {operand : Expression}
    (blamed : operand.Blamed slots environment) :
    (Expression.unary operator operand).Blamed slots environment :=
  blamed.of_subset fun _ member => member

/-- Only an object slot gives an expression the kind of an object. -/
theorem blamed_of_object (checked : expression.check slots = .ok .object) :
    expression.Blamed slots environment := by
  induction expression with
  | literal literal =>
      cases literal <;> simp [check, Literal.value, Value.kind, Number.kind] at checked
  | identifier name =>
      exact ⟨name, by simp [occurrences], Or.inl (check_identifier_eq_ok.mp checked)⟩
  | comparison operator left right leftHypothesis rightHypothesis =>
      exact absurd (check_of_yieldsTruth rfl checked) (by decide)
  | logical connective operands inductionHypothesis =>
      exact absurd (check_of_yieldsTruth rfl checked) (by decide)
  | unary operator operand inductionHypothesis =>
      cases operator with
      | not => exact absurd (check_of_yieldsTruth rfl checked) (by decide)
      | minus => exact (inductionHypothesis (check_minus_eq_ok.mp checked).1).of_unary

/-- A null value comes from a null literal or from a name that is bound to null. -/
theorem blamed_of_null {kind : Kind} (checked : expression.check slots = .ok kind)
    (evaluated : expression.evaluate environment = .ok .null) :
    kind = .null ∨ expression.Blamed slots environment := by
  induction expression generalizing kind with
  | literal literal =>
      cases literal <;> simp [evaluate, Literal.value] at evaluated
      cases checked
      exact Or.inl rfl
  | identifier name =>
      simp only [evaluate] at evaluated
      split at evaluated
      · rename_i value bound
        cases evaluated
        exact Or.inr ⟨name, by simp [occurrences], Or.inr bound⟩
      · simp at evaluated
  | comparison operator left right leftHypothesis rightHypothesis =>
      obtain ⟨truth, impossible⟩ := evaluate_of_yieldsTruth rfl evaluated
      simp at impossible
  | logical connective operands inductionHypothesis =>
      obtain ⟨truth, impossible⟩ := evaluate_of_yieldsTruth rfl evaluated
      simp at impossible
  | unary operator operand inductionHypothesis =>
      cases operator with
      | not =>
          obtain ⟨truth, impossible⟩ := evaluate_of_yieldsTruth rfl evaluated
          simp at impossible
      | minus =>
          obtain ⟨inner, innerEvaluated, negated⟩ := evaluate_minus_eq_ok.mp evaluated
          have null : inner = .null := Value.kind_eq_null.mp (Value.kind_of_negate negated).symm
          exact inductionHypothesis (check_minus_eq_ok.mp checked).1 (null ▸ innerEvaluated)

/-- A condition without a truth value has someone to blame. -/
theorem blamed_of_condition (admits : Admits slots environment) {kind : Kind} {value : Value}
    {operator : LogicalOperator} {error : EvaluationError}
    (checked : expression.check slots = .ok kind) (condition : kind.isCondition = true)
    (evaluated : expression.evaluate environment = .ok value)
    (failed : value.condition operator = .error error) :
    expression.Blamed slots environment := by
  have fits := fits_of_evaluate admits checked evaluated
  rcases Value.kind_of_condition_error fits condition failed with rfl | rfl
  · exact blamed_of_object checked
  · rcases blamed_of_null checked evaluated with rfl | blamed
    · simp [Kind.isCondition] at condition
    · exact blamed

/-- A number that cannot be negated is no number, and only an object slot lets it pass. -/
theorem blamed_of_negate (admits : Admits slots environment) {kind : Kind} {value : Value}
    {error : EvaluationError} (checked : expression.check slots = .ok kind)
    (accepted : kind.isNumeric = true ∨ kind = .object)
    (evaluated : expression.evaluate environment = .ok value)
    (failed : value.negate = .error error) (mismatch : error.isMismatch = true) :
    expression.Blamed slots environment := by
  rcases accepted with numeric | rfl
  · have fits := Value.fits_iff.mp (fits_of_evaluate admits checked evaluated)
    cases value with
    | null => simp [Value.negate] at failed
    | number number =>
        obtain ⟨signal, -, rfl⟩ := Outcome.mapError_eq_error.mp failed
        simp [EvaluationError.isMismatch] at mismatch
    | _ => cases kind <;> simp [Kind.isNumeric, Value.kind] at numeric fits
  · exact blamed_of_object checked

/-- A mismatch during the evaluation has someone to blame. -/
theorem blamed_of_mismatch (admits : Admits slots environment) {kind : Kind}
    {error : EvaluationError} (checked : expression.check slots = .ok kind)
    (failed : expression.evaluate environment = .error error)
    (mismatch : error.isMismatch = true) : expression.Blamed slots environment := by
  obtain ⟨node, below, fault⟩ := exists_failsEvaluation failed
  obtain ⟨nodeKind, nodeChecked⟩ := below.check checked
  have nodeBlamed : node.Blamed slots environment := by
    cases fault with
    | identifier missing => simp [EvaluationError.isMismatch] at mismatch
    | comparison leftEvaluated rightEvaluated raised =>
        simp [EvaluationError.isMismatch] at mismatch
    | chain member evaluated refused =>
        obtain ⟨inner, innerChecked, condition⟩ :=
          (check_logical_eq_ok.mp nodeChecked).2 _ member
        exact (blamed_of_condition admits innerChecked condition evaluated refused).of_operand
          member
    | not evaluated refused =>
        obtain ⟨-, inner, innerChecked, condition⟩ := check_not_eq_ok.mp nodeChecked
        exact (blamed_of_condition admits innerChecked condition evaluated refused).of_unary
    | minus evaluated refused =>
        obtain ⟨innerChecked, accepted⟩ := check_minus_eq_ok.mp nodeChecked
        exact (blamed_of_negate admits innerChecked accepted evaluated refused mismatch).of_unary
  exact nodeBlamed.of_subset below.occurrences_subset

end Expression

/-- A compiled expression is a checked tree whose kind is a condition. -/
theorem compile_eq_ok {text : String} {slots : List Slot} {compiled : Compiled}
    (compiles : compile text slots = .ok compiled) :
    compiled.slots = slots ∧ ∃ kind, compiled.root.check slots = .ok kind ∧
      kind.isCondition = true := by
  obtain ⟨root, -, checks⟩ := Outcome.bind_eq_ok.mp compiles
  obtain ⟨kind, checked, finishes⟩ := Outcome.bind_eq_ok.mp checks
  by_cases condition : kind.isCondition = true
  · rw [if_pos condition] at finishes
    cases finishes
    exact ⟨rfl, kind, Outcome.mapError_eq_ok.mp checked, condition⟩
  · rw [if_neg condition] at finishes
    cases finishes

/-- A compiled expression keeps the tree of its text. -/
theorem parse_of_compile {text : String} {slots : List Slot} {compiled : Compiled}
    (compiles : compile text slots = .ok compiled) : parse text = .ok compiled.root := by
  obtain ⟨root, parsed, checks⟩ := Outcome.bind_eq_ok.mp compiles
  obtain ⟨kind, -, finishes⟩ := Outcome.bind_eq_ok.mp checks
  split at finishes
  · cases finishes
    exact Outcome.mapError_eq_ok.mp parsed
  · cases finishes

/-- The final truth value fails only for a value that is no condition. -/
theorem Value.condition_of_truth_error {value : Value} {error : EvaluationError}
    (failed : value.truth = .error error) : ∃ other, value.condition .not = .error other := by
  cases value <;> simp_all [Value.truth, Value.condition]

/-- Every node of a compiled expression has a value of its own kind. A mismatch can be blamed on
a name that is declared as an object or bound to null, so without such names nothing is
mismatched. -/
theorem evaluation_blame {text : String} {slots : List Slot} {compiled : Compiled}
    {values : List Value} {bound : Bound} (compiles : compile text slots = .ok compiled)
    (binds : compiled.bind values = .ok bound) :
    (∀ node, compiled.root.HasNode node → ∃ kind, node.check slots = .ok kind ∧
      ∀ value, node.evaluate bound.environment = .ok value → value.fits kind = true) ∧
    (∀ error : EvaluationError, bound.evaluate = .error error ∨ bound.run = .error error →
      error.isMismatch = true → ∃ name ∈ compiled.root.occurrences,
        Slot.kindOf? slots name = some .object ∨ bound.environment name = some .null) ∧
    ((∀ name ∈ compiled.root.occurrences,
        Slot.kindOf? slots name ≠ some .object ∧ bound.environment name ≠ some .null) →
      ∀ error, compiled.execute values = .error error → error.isMismatch = false) := by
  obtain ⟨sameSlots, kind, checked, condition⟩ := compile_eq_ok compiles
  have admits : Admits slots bound.environment := sameSlots ▸ Bound.admits binds
  obtain ⟨rfl, -, -⟩ := Compiled.bind_eq_ok binds
  have blame : ∀ error : EvaluationError,
      Bound.evaluate ⟨compiled, values⟩ = .error error ∨
        Bound.run ⟨compiled, values⟩ = .error error →
      error.isMismatch = true →
        compiled.root.Blamed slots (Bound.environment ⟨compiled, values⟩) := by
    rintro error (failed | failed) mismatch
    · exact Expression.blamed_of_mismatch admits checked failed mismatch
    · rcases Outcome.bind_eq_error.mp failed with evaluateFailed | ⟨value, evaluated, truthFailed⟩
      · exact Expression.blamed_of_mismatch admits checked evaluateFailed mismatch
      · obtain ⟨other, conditionFailed⟩ := Value.condition_of_truth_error truthFailed
        exact Expression.blamed_of_condition admits checked condition evaluated conditionFailed
  refine ⟨?_, blame, ?_⟩
  · intro node below
    obtain ⟨nodeKind, nodeChecked⟩ := below.check checked
    exact ⟨nodeKind, nodeChecked, fun value => Expression.fits_of_evaluate admits nodeChecked⟩
  · intro blameless error failed
    unfold Compiled.execute at failed
    rw [binds] at failed
    obtain ⟨inner, ranFailed, rfl⟩ := Outcome.mapError_eq_error.mp failed
    cases mismatch : inner.isMismatch with
    | false => exact mismatch
    | true =>
        rcases blame inner (Or.inr ranFailed) mismatch with ⟨name, member, object | null⟩
        · exact absurd object (blameless name member).1
        · exact absurd null (blameless name member).2

/-- A text in an object slot is a mismatch behind a comparison that holds. -/
theorem evaluation_blame_text : ∃ compiled bound,
    compile "-x != null && y" [⟨"x", .float⟩, ⟨"y", .object⟩] = .ok compiled ∧
      compiled.bind [.number (.integer 3), .string "on"] = .ok bound ∧
      bound.run = .error (.operandNotBoolean (.chain .and) .string) ∧
      ∃ name ∈ compiled.root.occurrences,
        Slot.kindOf? [⟨"x", .float⟩, ⟨"y", .object⟩] name = some .object ∨
          bound.environment name = some .null := by
  let root : Expression := .logical .and
    [.comparison .notEqual (.unary .minus (.identifier "x")) (.literal .null), .identifier "y"]
  let compiled : Compiled :=
    ⟨"-x != null && y", [⟨"x", .float⟩, ⟨"y", .object⟩], root, .bool⟩
  have compiles : compile "-x != null && y" [⟨"x", .float⟩, ⟨"y", .object⟩] = .ok compiled := by
    with_unfolding_all rfl
  have binds : compiled.bind [.number (.integer 3), .string "on"] =
    .ok ⟨compiled, [.number (.integer 3), .string "on"]⟩ := rfl
  have runs : Bound.run ⟨compiled, [.number (.integer 3), .string "on"]⟩ =
    .error (.operandNotBoolean (.chain .and) .string) := by
    with_unfolding_all rfl
  exact ⟨compiled, _, compiles, binds, runs,
    (evaluation_blame compiles binds).2.1 _ (Or.inr runs) rfl⟩

end Predicates
