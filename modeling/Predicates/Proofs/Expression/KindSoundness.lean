/-
This file shows that the values of checked expressions have the kinds that the check gives them.
-/

import Predicates.Expression.Execution
import Predicates.Proofs.Expression.Structure

namespace Predicates

namespace Value

/-- Only the null value is of the kind null. -/
theorem kind_eq_null {value : Value} : value.kind = .null ↔ value = .null := by
  cases value with
  | number number => cases number <;> simp [kind, Number.kind]
  | _ => simp [kind]

theorem fits_iff {value : Value} {declared : Kind} :
    value.fits declared = true ↔ value.kind = .null ∨ declared = .object ∨
      value.kind = declared ∨ (value.kind = .int ∧ (declared = .float ∨ declared = .decimal)) := by
  simp [fits, or_assoc]

theorem fits_kind (value : Value) : value.fits value.kind = true :=
  fits_iff.mpr (Or.inr (Or.inr (Or.inl rfl)))

/-- Negation keeps null and the kinds of numbers. -/
theorem kind_of_negate {value result : Value} (negated : value.negate = .ok result) :
    result.kind = value.kind := by
  cases value with
  | null =>
      cases negated
      rfl
  | number number =>
      obtain ⟨opposite, found, rfl⟩ := Outcome.map_eq_ok.mp (Outcome.mapError_eq_ok.mp negated)
      cases number with
      | integer value =>
          cases found
          rfl
      | binary value =>
          cases found
          rfl
      | decimal value =>
          obtain ⟨inner, -, rfl⟩ := Outcome.map_eq_ok.mp found
          rfl
  | _ => simp [negate] at negated

/-- A value without a truth value does not fit a condition, unless the condition is an object or
the value is null. -/
theorem kind_of_condition_error {value : Value} {declared : Kind} {operator : LogicalOperator}
    {error : EvaluationError} (fits : value.fits declared = true)
    (condition : declared.isCondition = true) (failed : value.condition operator = .error error) :
    declared = .object ∨ value = .null := by
  cases declared with
  | object => exact Or.inl rfl
  | bool =>
      right
      rcases fits_iff.mp fits with null | impossible | same | ⟨-, wider⟩
      · exact kind_eq_null.mp null
      · simp at impossible
      · cases value with
        | bool truth => simp [Value.condition] at failed
        | number number => cases number <;> simp [kind, Number.kind] at same
        | _ => simp [kind] at same
      · simp at wider
  | _ => simp [Kind.isCondition] at condition

end Value

/-- Every slot has a value that fits it. -/
def Admits (slots : List Slot) (environment : String → Option Value) : Prop :=
  ∀ name kind, Slot.kindOf? slots name = some kind →
    ∃ value, environment name = some value ∧ value.fits kind = true

/-- The values that were admitted fit their slots one by one. -/
theorem Slot.fits_of_admit {slots : List Slot} {values : List Value} {result : Unit}
    (admitted : Slot.admit slots values = .ok result) (length : values.length = slots.length)
    {position : Nat} {slot : Slot} (found : slots[position]? = some slot) :
    ∃ value, values[position]? = some value ∧ value.fits slot.kind = true := by
  induction slots generalizing values position with
  | nil => simp at found
  | cons first slots inductionHypothesis =>
      cases values with
      | nil => simp at length
      | cons value values =>
          unfold Slot.admit at admitted
          split at admitted
          · rename_i fits
            cases position with
            | zero =>
                simp only [List.getElem?_cons_zero, Option.some.injEq] at found
                exact ⟨value, rfl, found ▸ fits⟩
            | succ position =>
                simp only [List.getElem?_cons_succ] at found ⊢
                exact inductionHypothesis admitted (by simpa using length) found
          · simp at admitted

theorem Compiled.bind_eq_ok {compiled : Compiled} {values : List Value} {bound : Bound}
    (binds : compiled.bind values = .ok bound) :
    bound = ⟨compiled, values⟩ ∧ values.length = compiled.slots.length ∧
      Slot.admit compiled.slots values = .ok () := by
  unfold Compiled.bind at binds
  split at binds
  · rename_i length
    obtain ⟨result, admitted, same⟩ := Outcome.bind_eq_ok.mp binds
    cases same
    exact ⟨rfl, length, admitted⟩
  · cases binds

/-- A bound expression has fitting values for all of its slots. -/
theorem Compiled.execute_of_bind {compiled : Compiled} {values : List Value} {bound : Bound}
    (binds : compiled.bind values = .ok bound) :
    compiled.execute values = bound.run.mapError .evaluation := by
  unfold execute
  rw [binds]
  rfl

theorem Bound.admits {compiled : Compiled} {values : List Value} {bound : Bound}
    (binds : compiled.bind values = .ok bound) : Admits compiled.slots bound.environment := by
  obtain ⟨rfl, length, admitted⟩ := Compiled.bind_eq_ok binds
  intro name kind declared
  unfold Slot.kindOf? at declared
  obtain ⟨position, placed, declared⟩ := Option.bind_eq_some_iff.mp declared
  obtain ⟨slot, found, rfl⟩ := Option.map_eq_some_iff.mp declared
  obtain ⟨value, bound, fits⟩ := Slot.fits_of_admit admitted length found
  refine ⟨value, ?_, fits⟩
  simp only [Bound.environment, placed, Option.bind_some, bound]

theorem negationKind_eq_ok {kind result : Kind} :
    negationKind kind = .ok result ↔
      result = kind ∧ (kind.isNumeric = true ∨ kind = .object) := by
  unfold negationKind
  split
  · rename_i accepted
    constructor
    · intro same
      cases same
      exact ⟨rfl, by simpa using accepted⟩
    · rintro ⟨rfl, -⟩
      rfl
  · rename_i refused
    simp only [Bool.or_eq_true, decide_eq_true_eq] at refused
    simp [refused]

namespace Expression

variable {slots : List Slot} {environment : String → Option Value}

/-- The kind of a name is the kind of its slot. -/
theorem check_identifier_eq_ok {name : String} {kind : Kind} :
    (Expression.identifier name).check slots = .ok kind ↔ Slot.kindOf? slots name = some kind := by
  unfold check
  cases Slot.kindOf? slots name <;> simp

theorem check_minus_eq_ok {operand : Expression} {kind : Kind} :
    (Expression.unary .minus operand).check slots = .ok kind ↔
      operand.check slots = .ok kind ∧ (kind.isNumeric = true ∨ kind = .object) := by
  simp only [check, Outcome.bind_eq_ok, negationKind_eq_ok]
  constructor
  · rintro ⟨kind, checked, rfl, accepted⟩
    exact ⟨checked, accepted⟩
  · rintro ⟨checked, accepted⟩
    exact ⟨kind, checked, rfl, accepted⟩

theorem check_not_eq_ok {operand : Expression} {kind : Kind} :
    (Expression.unary .not operand).check slots = .ok kind ↔
      kind = .bool ∧ ∃ inner, operand.check slots = .ok inner ∧ inner.isCondition = true := by
  simp only [check, Outcome.bind_eq_ok, requireCondition_eq_ok, pure, Except.pure,
    Except.ok.injEq]
  constructor
  · rintro ⟨inner, checked, accepted, condition, rfl⟩
    exact ⟨rfl, inner, checked, condition⟩
  · rintro ⟨rfl, inner, checked, condition⟩
    exact ⟨inner, checked, (), condition, rfl⟩

theorem check_comparison_eq_ok {operator : Comparison} {left right : Expression} {kind : Kind} :
    (Expression.comparison operator left right).check slots = .ok kind ↔
      kind = .bool ∧ (∃ leftKind, left.check slots = .ok leftKind) ∧
        ∃ rightKind, right.check slots = .ok rightKind := by
  simp only [check, Outcome.bind_eq_ok, pure, Except.pure, Except.ok.injEq]
  constructor
  · rintro ⟨leftKind, leftChecked, rightKind, rightChecked, rfl⟩
    exact ⟨rfl, ⟨leftKind, leftChecked⟩, rightKind, rightChecked⟩
  · rintro ⟨rfl, ⟨leftKind, leftChecked⟩, rightKind, rightChecked⟩
    exact ⟨leftKind, leftChecked, rightKind, rightChecked, rfl⟩

theorem check_logical_eq_ok {connective : Connective} {operands : List Expression} {kind : Kind} :
    (Expression.logical connective operands).check slots = .ok kind ↔
      kind = .bool ∧ ∀ operand ∈ operands, ∃ inner,
        operand.check slots = .ok inner ∧ inner.isCondition = true := by
  simp only [check, Outcome.bind_eq_ok, checkOperands_eq_ok, pure, Except.pure, Except.ok.injEq]
  constructor
  · rintro ⟨accepted, checked, rfl⟩
    exact ⟨rfl, checked⟩
  · rintro ⟨rfl, checked⟩
    exact ⟨(), checked, rfl⟩

/-- Every node of a checked tree is checked. -/
theorem HasNode.check {tree node : Expression} {kind : Kind} (below : tree.HasNode node)
    (checked : tree.check slots = .ok kind) : ∃ nodeKind, node.check slots = .ok nodeKind := by
  induction below generalizing kind with
  | root tree => exact ⟨kind, checked⟩
  | left below inductionHypothesis =>
      obtain ⟨-, ⟨leftKind, leftChecked⟩, -⟩ := check_comparison_eq_ok.mp checked
      exact inductionHypothesis leftChecked
  | right below inductionHypothesis =>
      obtain ⟨-, -, rightKind, rightChecked⟩ := check_comparison_eq_ok.mp checked
      exact inductionHypothesis rightChecked
  | operand member below inductionHypothesis =>
      obtain ⟨inner, innerChecked, -⟩ := (check_logical_eq_ok.mp checked).2 _ member
      exact inductionHypothesis innerChecked
  | @inner operator operand node below inductionHypothesis =>
      cases operator with
      | not =>
          obtain ⟨-, inner, innerChecked, -⟩ := check_not_eq_ok.mp checked
          exact inductionHypothesis innerChecked
      | minus => exact inductionHypothesis (check_minus_eq_ok.mp checked).1

theorem evaluate_minus_eq_ok {operand : Expression} {value : Value} :
    (Expression.unary .minus operand).evaluate environment = .ok value ↔
      ∃ inner, operand.evaluate environment = .ok inner ∧ inner.negate = .ok value := by
  simp only [evaluate, Outcome.bind_eq_ok]

/-- Comparisons, chains and logical negations have truth values. -/
def yieldsTruth : Expression → Bool
  | .comparison .. => true
  | .logical .. => true
  | .unary .not _ => true
  | _ => false

theorem check_of_yieldsTruth {expression : Expression} {kind : Kind}
    (yields : expression.yieldsTruth = true) (checked : expression.check slots = .ok kind) :
    kind = .bool := by
  match expression, yields with
  | .comparison .., _ => exact (check_comparison_eq_ok.mp checked).1
  | .logical .., _ => exact (check_logical_eq_ok.mp checked).1
  | .unary .not _, _ => exact (check_not_eq_ok.mp checked).1

theorem evaluate_of_yieldsTruth {expression : Expression} {value : Value}
    (yields : expression.yieldsTruth = true)
    (evaluated : expression.evaluate environment = .ok value) : ∃ truth, value = .bool truth := by
  match expression, yields with
  | .comparison .., _ =>
      simp only [evaluate, Outcome.bind_eq_ok, Outcome.mapError_eq_ok,
        Outcome.map_eq_ok] at evaluated
      obtain ⟨-, -, -, -, truth, -, rfl⟩ := evaluated
      exact ⟨truth, rfl⟩
  | .logical .., _ =>
      simp only [evaluate, Outcome.bind_eq_ok] at evaluated
      obtain ⟨truth, -, same⟩ := evaluated
      exact ⟨truth, (Except.ok.inj same).symm⟩
  | .unary .not _, _ =>
      simp only [evaluate, Outcome.bind_eq_ok] at evaluated
      obtain ⟨-, -, truth, -, same⟩ := evaluated
      exact ⟨!truth, (Except.ok.inj same).symm⟩

/-- A truth value fits the kind of a node that yields one. -/
theorem fits_of_yieldsTruth {expression : Expression} {kind : Kind} {value : Value}
    (yields : expression.yieldsTruth = true) (checked : expression.check slots = .ok kind)
    (evaluated : expression.evaluate environment = .ok value) : value.fits kind = true := by
  obtain ⟨truth, rfl⟩ := evaluate_of_yieldsTruth yields evaluated
  rw [check_of_yieldsTruth yields checked]
  exact Value.fits_kind (.bool truth)

/-- The value of a checked expression fits the kind of the expression. -/
theorem fits_of_evaluate (admits : Admits slots environment) {expression : Expression}
    {kind : Kind} {value : Value} (checked : expression.check slots = .ok kind)
    (evaluated : expression.evaluate environment = .ok value) : value.fits kind = true := by
  induction expression generalizing kind value with
  | literal literal =>
      cases checked
      cases evaluated
      exact Value.fits_kind literal.value
  | identifier name =>
      obtain ⟨admitted, bound, fits⟩ := admits name kind (check_identifier_eq_ok.mp checked)
      simp only [evaluate, bound, Except.ok.injEq] at evaluated
      exact evaluated ▸ fits
  | comparison operator left right leftHypothesis rightHypothesis =>
      exact fits_of_yieldsTruth rfl checked evaluated
  | logical connective operands inductionHypothesis =>
      exact fits_of_yieldsTruth rfl checked evaluated
  | unary operator operand inductionHypothesis =>
      cases operator with
      | not => exact fits_of_yieldsTruth rfl checked evaluated
      | minus =>
          obtain ⟨inner, innerEvaluated, negated⟩ := evaluate_minus_eq_ok.mp evaluated
          have innerFits := inductionHypothesis (check_minus_eq_ok.mp checked).1 innerEvaluated
          rw [Value.fits_iff, Value.kind_of_negate negated]
          exact Value.fits_iff.mp innerFits

end Expression

end Predicates
