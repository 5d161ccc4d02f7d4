/-
This file shows that the six comparisons of two values fit together, and that they agree with the
comparisons of the same values from the other side.
-/

import Predicates.Expression.Evaluation
import Predicates.Proofs.Value.Symmetry

namespace Predicates

namespace Comparison

/-- The operator that says the same with the sides exchanged. -/
def mirrored : Comparison → Comparison
  | .equal => .equal
  | .notEqual => .notEqual
  | .below => .above
  | .atMost => .atLeast
  | .above => .below
  | .atLeast => .atMost

def isOrdering : Comparison → Bool
  | .equal => false
  | .notEqual => false
  | _ => true

/-- The answer of an operator follows from the equality and from the order of its sides. -/
def answer (same : Bool) (order : Option Ordering) : Comparison → Bool
  | .equal => same
  | .notEqual => !same
  | .below => order.any Ordering.isLT
  | .atMost => order.any Ordering.isLE
  | .above => order.any Ordering.isGT
  | .atLeast => order.any Ordering.isGE

theorem holds_eq_answer {left right : Value} {same : Bool} {order : Option Ordering}
    (equality : left.equals right = .ok same) (compared : left.compare right = .ok order)
    (operator : Comparison) : operator.holds left right = .ok (operator.answer same order) := by
  cases operator <;> simp only [holds, equality, compared, Except.map, answer]

/-- The mirrored operator answers the same where the order is swapped. -/
theorem answer_mirrored (same : Bool) (order : Option Ordering) (operator : Comparison) :
    operator.mirrored.answer same (order.map Ordering.swap) = operator.answer same order := by
  cases order with
  | none => cases operator <;> rfl
  | some order => cases operator <;> cases order <;> rfl

/-- The answers of the operators on two values fit together, and so do the answers with the sides
exchanged. -/
structure Coherent (orderable : Prop) (forward backward : Comparison → Bool) : Prop where
  mirrored : ∀ operator, forward operator = backward operator.mirrored
  notEqual : forward .notEqual = !forward .equal
  onlyOne : orderable → [forward .below, forward .equal, forward .above].count true = 1
  atMost : orderable → forward .atMost = !forward .above
  atLeast : orderable → forward .atLeast = !forward .below
  unordered : ¬orderable → ∀ operator : Comparison, operator.isOrdering = true →
    forward operator = false ∧ backward operator = false

/-- Answers are coherent when orderable values have an order, which is level for equal ones, and
other values have none. -/
theorem coherent_answer {orderable : Prop} {same : Bool} {order : Option Ordering}
    (ordered : orderable → ∃ found, order = some found ∧ same = (found = .eq : Bool))
    (unordered : ¬orderable → order = none) :
    Coherent orderable (answer same order) (answer same (order.map Ordering.swap)) where
  mirrored operator := (answer_mirrored same order operator).symm
  notEqual := rfl
  onlyOne values := by
    obtain ⟨found, rfl, rfl⟩ := ordered values
    cases found <;> rfl
  atMost values := by
    obtain ⟨found, rfl, rfl⟩ := ordered values
    cases found <;> rfl
  atLeast values := by
    obtain ⟨found, rfl, rfl⟩ := ordered values
    cases found <;> rfl
  unordered values operator ordering := by
    rw [unordered values]
    cases operator with
    | equal => cases ordering
    | notEqual => cases ordering
    | _ => exact ⟨rfl, rfl⟩

end Comparison

/-- What is not a number has no order, and no signal is raised for it when it is quiet. -/
theorem Number.compare_of_nan {left right : Number} (leftQuiet : left.isSignaling = false)
    (rightQuiet : right.isSignaling = false)
    (undefined : left.isNaN = true ∨ right.isNaN = true) : left.compare right = .ok none := by
  rw [compare, leftQuiet, rightQuiet]
  rcases undefined with leftNaN | rightNaN
  · rw [leftNaN]
    rfl
  · rw [rightNaN]
    cases left.isNaN <;> rfl

namespace Value

/-- Two numbers have an order unless one of them is not a number, and so have two texts. -/
def Orderable : Value → Value → Prop
  | .number left, .number right => left.isNaN = false ∧ right.isNaN = false
  | .string _, .string _ => True
  | _, _ => False

variable {left right : Value}

/-- Orderable values have an order, and they are equal when neither comes first. -/
theorem exists_order (orderable : left.Orderable right) :
    ∃ order, left.compare right = .ok (some order) ∧
      right.compare left = .ok (some order.swap) ∧ left.equals right = .ok (order = .eq) := by
  match left, right, orderable with
  | .number left, .number right, ⟨leftNumber, rightNumber⟩ =>
      obtain ⟨order, compared, equality⟩ := Number.exists_order leftNumber rightNumber
      refine ⟨order, compared, ?_, equality⟩
      have forward : left.order? right = some order :=
        Except.ok.inj ((Number.compare_of_number leftNumber rightNumber).symm.trans compared)
      exact (Number.compare_of_number rightNumber leftNumber).trans
        (by rw [Number.order?_swap leftNumber rightNumber, forward]; rfl)
  | .string left, .string right, _ =>
      refine ⟨Ord.compare left right, rfl, ?_, ?_⟩
      · exact congrArg (fun order => Except.ok (some order)) Std.OrientedOrd.eq_swap
      · have same : decide (left = right) = decide (Ord.compare left right = .eq) :=
          decide_eq_decide.mpr Std.LawfulEqOrd.compare_eq_iff_eq.symm
        exact congrArg Except.ok same

/-- Values that are not orderable have no order from either side. -/
theorem compare_of_not_orderable (leftComparable : left.Comparable)
    (rightComparable : right.Comparable) (unordered : ¬left.Orderable right) :
    left.compare right = .ok none ∧ right.compare left = .ok none := by
  cases left with
  | number leftNumber =>
      cases right with
      | number rightNumber =>
          have undefined : leftNumber.isNaN = true ∨ rightNumber.isNaN = true := by
            by_contra numbers
            rw [not_or, Bool.not_eq_true, Bool.not_eq_true] at numbers
            exact unordered numbers
          exact ⟨Number.compare_of_nan leftComparable.quiet rightComparable.quiet undefined,
            Number.compare_of_nan rightComparable.quiet leftComparable.quiet undefined.symm⟩
      | _ => exact ⟨rfl, rfl⟩
  | string leftText =>
      cases right with
      | string rightText => exact absurd trivial unordered
      | _ => exact ⟨rfl, rfl⟩
  | _ => cases right <;> exact ⟨rfl, rfl⟩

/-- Two comparable values are equal or not, and have an order or none, in one way from both sides.
They have an order when they are orderable. -/
theorem exists_relation (leftComparable : left.Comparable) (rightComparable : right.Comparable) :
    ∃ same order, left.equals right = .ok same ∧ right.equals left = .ok same ∧
      left.compare right = .ok order ∧ right.compare left = .ok (order.map Ordering.swap) ∧
      (left.Orderable right → ∃ found, order = some found ∧ same = (found = .eq : Bool)) ∧
      (¬left.Orderable right → order = none) := by
  have flipped : right.equals left = left.equals right :=
    equals_comm rightComparable leftComparable
  by_cases orderable : left.Orderable right
  · obtain ⟨order, compared, swapped, equality⟩ := exists_order orderable
    exact ⟨order = .eq, some order, equality, flipped.trans equality, compared, swapped,
      fun _ => ⟨order, rfl, rfl⟩, fun unordered => absurd orderable unordered⟩
  · obtain ⟨⟨same, equality⟩, -⟩ :=
      compared_of_not_signaling leftComparable.not_signaling rightComparable.not_signaling
    obtain ⟨compared, swapped⟩ :=
      compare_of_not_orderable leftComparable rightComparable orderable
    exact ⟨same, none, equality, flipped.trans equality, compared, swapped,
      fun ordered => absurd ordered orderable, fun _ => rfl⟩

/-- All six comparisons of comparable values have answers, from both sides, and these are coherent. -/
theorem comparisons_cohere (leftComparable : left.Comparable)
    (rightComparable : right.Comparable) :
    ∃ forward backward : Comparison → Bool,
      (∀ operator : Comparison, operator.holds left right = .ok (forward operator) ∧
        operator.holds right left = .ok (backward operator)) ∧
      Comparison.Coherent (left.Orderable right) forward backward := by
  obtain ⟨same, order, equality, flipped, compared, swapped, ordered, unordered⟩ :=
    exists_relation leftComparable rightComparable
  exact ⟨Comparison.answer same order, Comparison.answer same (order.map Ordering.swap),
    fun operator => ⟨Comparison.holds_eq_answer equality compared operator,
      Comparison.holds_eq_answer flipped swapped operator⟩,
    Comparison.coherent_answer ordered unordered⟩

/-- The mappings list their keys in different orders, and a boolean counts as a number inside them. -/
theorem comparisons_cohere_mappings :
    let left : Value := .dict [("a", .list [.number (.integer 1), .null]), ("b", .bool true)]
    let right : Value := .dict [("b", .number (.integer 1)),
      ("a", .list [.number (.decimal (.finite false 10 (-1))), .null])]
    left.Comparable ∧ right.Comparable ∧ Comparison.equal.holds left right = .ok true ∧
      ∃ forward backward : Comparison → Bool,
        (∀ operator : Comparison, operator.holds left right = .ok (forward operator) ∧
          operator.holds right left = .ok (backward operator)) ∧
        Comparison.Coherent (left.Orderable right) forward backward := by
  intro left right
  have leftComparable : left.Comparable := by
    refine .dict (by decide) ?_
    simp only [List.forall_mem_cons, List.not_mem_nil, false_implies, implies_true, and_true]
    refine ⟨.list ?_, .bool true⟩
    simp only [List.forall_mem_cons, List.not_mem_nil, false_implies, implies_true, and_true]
    exact ⟨.number rfl, .null⟩
  have rightComparable : right.Comparable := by
    refine .dict (by decide) ?_
    simp only [List.forall_mem_cons, List.not_mem_nil, false_implies, implies_true, and_true]
    refine ⟨.number rfl, .list ?_⟩
    simp only [List.forall_mem_cons, List.not_mem_nil, false_implies, implies_true, and_true]
    exact ⟨.number rfl, .null⟩
  exact ⟨leftComparable, rightComparable, rfl, comparisons_cohere leftComparable rightComparable⟩

end Value

end Predicates
