/-
This file shows that the evaluation of a compiled expression fails for mismatched kinds, and besides
them only for decimals that raise a signal.
-/

import Predicates.Proofs.Expression.Blame
import Predicates.Proofs.Value.Signaling

namespace Predicates

namespace Value

variable {value : Value}

/-- A negation fails for a value that is no number, or for a decimal that raises a signal. -/
theorem negate_eq_error {error : EvaluationError} (failed : value.negate = .error error) :
    error.isMismatch = true ∨ ∃ decimal signal, value = .number (.decimal decimal) ∧
      decimal.negate = .error signal ∧ error = .decimal signal := by
  cases value with
  | null => simp [negate] at failed
  | number number =>
      right
      obtain ⟨signal, raised, rfl⟩ := Outcome.mapError_eq_error.mp failed
      have raised : number.negate = .error signal := Outcome.map_eq_error.mp raised
      cases number with
      | integer whole => simp [Number.negate] at raised
      | binary binary => simp [Number.negate] at raised
      | decimal decimal =>
          exact ⟨decimal, signal, rfl, Outcome.map_eq_error.mp raised, rfl⟩
  | _ =>
      left
      cases failed
      rfl

/-- Only a decimal that is not settled and what objects hold can raise a signal. -/
def Settled : Value → Prop
  | .number (.decimal decimal) => decimal.Settled
  | .list _ => False
  | .dict _ => False
  | _ => True

theorem Settled.not_signaling (settled : value.Settled) : ¬ value.Signaling := by
  rintro (@⟨number, signaling⟩ | _ | _)
  · cases number with
    | decimal decimal =>
        rw [Number.isSignaling, Decimal.Settled.not_signaling settled] at signaling
        cases signaling
    | _ => cases signaling
  · exact settled
  · exact settled

/-- The result of a negation is settled. -/
theorem settled_of_negate {result : Value} (negated : value.negate = .ok result) :
    result.Settled := by
  cases value with
  | null =>
      cases negated
      trivial
  | number number =>
      obtain ⟨opposite, found, rfl⟩ := Outcome.map_eq_ok.mp (Outcome.mapError_eq_ok.mp negated)
      cases number with
      | decimal before =>
          obtain ⟨after, computed, rfl⟩ := Outcome.map_eq_ok.mp found
          exact Decimal.settled_of_negate computed
      | _ =>
          cases found
          trivial
  | _ => cases negated

end Value

namespace Expression

variable {slots : List Slot} {environment : String → Option Value} {expression : Expression}
  {value : Value}

/-- The signal is raised by a value that is bound to a name of the expression. It is signaling, or
it stands behind a minus sign and overflows. -/
def Signals (environment : String → Option Value) (expression : Expression)
    (signal : DecimalSignal) : Prop :=
  ∃ name value, environment name = some value ∧
    (signal = .invalidOperation ∧ value.Signaling ∧ expression.HasNode (.identifier name) ∨
      signal = .overflow ∧ value.negate = .error (.decimal .overflow) ∧
        expression.HasNode (.unary .minus (.identifier name)))

/-- The signal of an operand is the signal of the whole expression. -/
theorem Signals.lift {operand : Expression} {signal : DecimalSignal}
    (raised : operand.Signals environment signal)
    (below : ∀ node, operand.HasNode node → expression.HasNode node) :
    expression.Signals environment signal := by
  obtain ⟨name, value, bound, ⟨same, signaling, node⟩ | ⟨same, overflows, node⟩⟩ := raised
  · exact ⟨name, value, bound, Or.inl ⟨same, signaling, below _ node⟩⟩
  · exact ⟨name, value, bound, Or.inr ⟨same, overflows, below _ node⟩⟩

/-- The evaluation ends for mismatched kinds or for a signal of a decimal. -/
def EndsWith (environment : String → Option Value) (expression : Expression)
    (error : EvaluationError) : Prop :=
  error.isMismatch = true ∨
    ∃ signal, error = .decimal signal ∧ expression.Signals environment signal

/-- What ends an operand ends the whole expression. -/
theorem EndsWith.lift {operand : Expression} {error : EvaluationError}
    (ends : operand.EndsWith environment error)
    (below : ∀ node, operand.HasNode node → expression.HasNode node) :
    expression.EndsWith environment error := by
  rcases ends with mismatch | ⟨signal, same, raised⟩
  · exact Or.inl mismatch
  · exact Or.inr ⟨signal, same, raised.lift below⟩

/-- A value that is not settled can only be the value of a name. -/
theorem identifier_of_not_settled (evaluated : expression.evaluate environment = .ok value)
    (loose : ¬ value.Settled) :
    ∃ name, expression = .identifier name ∧ environment name = some value := by
  have notTruth (yields : expression.yieldsTruth = true) : False := by
    obtain ⟨truth, rfl⟩ := evaluate_of_yieldsTruth yields evaluated
    exact loose trivial
  cases expression with
  | literal literal =>
      cases evaluated
      cases literal <;> exact absurd trivial loose
  | identifier name =>
      simp only [evaluate] at evaluated
      split at evaluated
      · rename_i value bound
        cases evaluated
        exact ⟨name, rfl, bound⟩
      · simp at evaluated
  | comparison operator left right => exact (notTruth rfl).elim
  | logical connective operands => exact (notTruth rfl).elim
  | unary operator operand =>
      cases operator with
      | not => exact (notTruth rfl).elim
      | minus =>
          obtain ⟨inner, -, negated⟩ := evaluate_minus_eq_ok.mp evaluated
          exact absurd (Value.settled_of_negate negated) loose

/-- A signaling value comes straight from a name. -/
theorem signals_of_signaling (evaluated : expression.evaluate environment = .ok value)
    (signaling : value.Signaling) : expression.Signals environment .invalidOperation := by
  obtain ⟨name, rfl, bound⟩ :=
    identifier_of_not_settled evaluated fun settled => settled.not_signaling signaling
  exact ⟨name, value, bound, Or.inl ⟨rfl, signaling, .root _⟩⟩

/-- A decimal that cannot be negated comes straight from a name, since a negated one is settled. -/
theorem signals_of_negate {decimal : Decimal} {signal : DecimalSignal}
    (evaluated : expression.evaluate environment = .ok (.number (.decimal decimal)))
    (raised : decimal.negate = .error signal) :
    (Expression.unary .minus expression).Signals environment signal := by
  have loose : ¬ (Value.number (.decimal decimal)).Settled := fun settled => by
    obtain ⟨result, negated⟩ := Decimal.Settled.negate settled
    rw [negated] at raised
    cases raised
  obtain ⟨name, rfl, bound⟩ := identifier_of_not_settled evaluated loose
  rcases Decimal.negate_eq_error raised with ⟨rfl, signaling⟩ | rfl
  · exact ⟨name, _, bound, Or.inl ⟨rfl, .number signaling, .inner (.root _)⟩⟩
  · have overflows : (Value.number (.decimal decimal)).negate = .error (.decimal .overflow) :=
      Outcome.mapError_eq_error.mpr ⟨.overflow, Outcome.map_eq_error.mpr
        (Outcome.map_eq_error.mpr raised), rfl⟩
    exact ⟨name, _, bound, Or.inr ⟨rfl, overflows, .root _⟩⟩

theorem mismatch_of_condition {value : Value} {operator : LogicalOperator}
    {error : EvaluationError} (failed : value.condition operator = .error error) :
    error.isMismatch = true := by
  cases value with
  | bool truth => simp [Value.condition] at failed
  | _ =>
      cases failed
      rfl

/-- The evaluation of a checked expression fails for a mismatch or for a signal. -/
theorem endsWith_of_error (admits : Admits slots environment) {kind : Kind}
    {error : EvaluationError} (checked : expression.check slots = .ok kind)
    (failed : expression.evaluate environment = .error error) :
    expression.EndsWith environment error := by
  obtain ⟨node, below, fault⟩ := exists_failsEvaluation failed
  obtain ⟨nodeKind, nodeChecked⟩ := below.check checked
  have nodeEnds : node.EndsWith environment error := by
    cases fault with
    | identifier missing =>
        -- A checked name has a slot, so it is bound.
        obtain ⟨value, bound, -⟩ := admits _ _ (check_identifier_eq_ok.mp nodeChecked)
        rw [missing] at bound
        cases bound
    | comparison leftEvaluated rightEvaluated raised =>
        right
        obtain ⟨rfl, leftSignaling | rightSignaling⟩ := Value.holds_eq_error raised
        · exact ⟨_, rfl, (signals_of_signaling leftEvaluated leftSignaling).lift fun _ => .left⟩
        · exact ⟨_, rfl, (signals_of_signaling rightEvaluated rightSignaling).lift fun _ => .right⟩
    | chain member evaluated refused => exact Or.inl (mismatch_of_condition refused)
    | not evaluated refused => exact Or.inl (mismatch_of_condition refused)
    | minus evaluated refused =>
        refine (Value.negate_eq_error refused).imp_right ?_
        rintro ⟨decimal, signal, rfl, raised, rfl⟩
        exact ⟨signal, rfl, signals_of_negate evaluated raised⟩
  exact nodeEnds.lift fun _ => below.trans

end Expression

end Predicates
