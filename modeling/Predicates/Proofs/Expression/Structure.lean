/-
This file walks through the nodes of expressions.
-/

import Predicates.Expression.Evaluation
import Predicates.Proofs.Expression.Traversal
import Predicates.Proofs.Outcome

namespace Predicates.Expression

/-- A property of trees is proved for each kind of node from its operands. -/
@[elab_as_elim, induction_eliminator]
theorem nodeInduction {motive : Expression → Prop}
    (literal : ∀ value, motive (.literal value))
    (identifier : ∀ name, motive (.identifier name))
    (comparison : ∀ operator left right, motive left → motive right →
      motive (.comparison operator left right))
    (logical : ∀ connective operands, (∀ operand ∈ operands, motive operand) →
      motive (.logical connective operands))
    (unary : ∀ operator operand, motive operand → motive (.unary operator operand))
    (expression : Expression) : motive expression := by
  refine @Expression.rec motive (fun operands => ∀ operand ∈ operands, motive operand)
    literal identifier comparison logical unary ?_ ?_ expression
  · intro operand member
    simp at member
  · intro first rest firstHolds restHold operand member
    rcases List.mem_cons.mp member with rfl | member
    · exact firstHolds
    · exact restHold operand member

/-- A tree has itself and all nodes below it as its nodes. -/
inductive HasNode : Expression → Expression → Prop where
  | root (tree : Expression) : HasNode tree tree
  | left {operator : Comparison} {left right node : Expression} (below : HasNode left node) :
      HasNode (.comparison operator left right) node
  | right {operator : Comparison} {left right node : Expression} (below : HasNode right node) :
      HasNode (.comparison operator left right) node
  | operand {connective : Connective} {operands : List Expression} {operand node : Expression}
      (member : operand ∈ operands) (below : HasNode operand node) :
      HasNode (.logical connective operands) node
  | inner {operator : UnaryOperator} {operand node : Expression} (below : HasNode operand node) :
      HasNode (.unary operator operand) node

/-- The nodes below a node are nodes of the whole tree. -/
theorem HasNode.trans {tree node inner : Expression} (below : tree.HasNode node)
    (deeper : node.HasNode inner) : tree.HasNode inner := by
  induction below with
  | root tree => exact deeper
  | left below inductionHypothesis => exact .left (inductionHypothesis deeper)
  | right below inductionHypothesis => exact .right (inductionHypothesis deeper)
  | operand member below inductionHypothesis => exact .operand member (inductionHypothesis deeper)
  | inner below inductionHypothesis => exact .inner (inductionHypothesis deeper)

theorem mem_listOccurrences {operands : List Expression} {name : String} :
    name ∈ listOccurrences operands ↔ ∃ operand ∈ operands, name ∈ operand.occurrences := by
  rw [listOccurrences_eq, List.mem_flatMap]

/-- The names that occur are the names among the nodes. -/
theorem hasNode_identifier_iff {expression : Expression} {name : String} :
    expression.HasNode (.identifier name) ↔ name ∈ expression.occurrences := by
  constructor
  · intro below
    generalize same : Expression.identifier name = node at below
    induction below with
    | root tree =>
        subst same
        simp [occurrences]
    | left below inductionHypothesis =>
        exact List.mem_append_left _ (inductionHypothesis same)
    | right below inductionHypothesis =>
        exact List.mem_append_right _ (inductionHypothesis same)
    | operand member below inductionHypothesis =>
        exact mem_listOccurrences.mpr ⟨_, member, inductionHypothesis same⟩
    | inner below inductionHypothesis => exact inductionHypothesis same
  · intro member
    induction expression with
    | literal value => simp [occurrences] at member
    | identifier other =>
        obtain rfl : name = other := by simpa [occurrences] using member
        exact .root _
    | comparison operator left right leftHypothesis rightHypothesis =>
        rcases List.mem_append.mp member with inLeft | inRight
        · exact .left (leftHypothesis inLeft)
        · exact .right (rightHypothesis inRight)
    | logical connective operands inductionHypothesis =>
        obtain ⟨operand, found, inOperand⟩ := mem_listOccurrences.mp member
        exact .operand found (inductionHypothesis operand found inOperand)
    | unary operator operand inductionHypothesis => exact .inner (inductionHypothesis member)

/-- The names of a node occur in the whole tree. -/
theorem HasNode.occurrences_subset {tree node : Expression} (below : tree.HasNode node) :
    ∀ name ∈ node.occurrences, name ∈ tree.occurrences := by
  intro name member
  exact hasNode_identifier_iff.mp (below.trans (hasNode_identifier_iff.mpr member))

variable {slots : List Slot} {environment : String → Option Value} {connective : Connective}
  {operands : List Expression}

theorem requireCondition_eq_ok {operator : LogicalOperator} {kind : Kind} {result : Unit} :
    requireCondition operator kind = .ok result ↔ kind.isCondition = true := by
  unfold requireCondition
  split
  · rename_i condition
    exact ⟨fun _ => condition, fun _ => rfl⟩
  · rename_i refused
    simp [refused]

/-- The operands of a chain pass the check when each of them is a condition. -/
theorem checkOperands_eq_ok {result : Unit} :
    checkOperands slots connective operands = .ok result ↔
      ∀ operand ∈ operands, ∃ kind, operand.check slots = .ok kind ∧ kind.isCondition = true := by
  induction operands with
  | nil => simp [checkOperands]
  | cons first rest inductionHypothesis =>
      simp only [checkOperands, Outcome.bind_eq_ok, requireCondition_eq_ok, inductionHypothesis,
        List.forall_mem_cons]
      constructor
      · rintro ⟨kind, checked, accepted, condition, restChecked⟩
        exact ⟨⟨kind, checked, condition⟩, restChecked⟩
      · rintro ⟨⟨kind, checked, condition⟩, restChecked⟩
        exact ⟨kind, checked, (), condition, restChecked⟩

/-- A chain fails at an operand that fails or that has no truth value. -/
theorem evaluateChain_eq_error {error : EvaluationError}
    (failed : evaluateChain environment connective operands = .error error) :
    ∃ operand ∈ operands, operand.evaluate environment = .error error ∨
      ∃ value, operand.evaluate environment = .ok value ∧
        value.condition (.chain connective) = .error error := by
  induction operands with
  | nil => simp [evaluateChain] at failed
  | cons first rest inductionHypothesis =>
      rcases Outcome.bind_eq_error.mp failed with operandFailed | ⟨value, evaluated, failed⟩
      · exact ⟨first, List.mem_cons_self, Or.inl operandFailed⟩
      · rcases Outcome.bind_eq_error.mp failed with conditionFailed | ⟨truth, condition, failed⟩
        · exact ⟨first, List.mem_cons_self, Or.inr ⟨value, evaluated, conditionFailed⟩⟩
        · by_cases settles : truth = connective.decisive
          · simp [settles, pure, Except.pure] at failed
          · rw [if_neg settles] at failed
            obtain ⟨operand, member, blamed⟩ := inductionHypothesis failed
            exact ⟨operand, List.mem_cons_of_mem first member, blamed⟩

end Predicates.Expression
