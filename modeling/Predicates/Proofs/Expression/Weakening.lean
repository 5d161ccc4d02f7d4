/-
This file shows that an expression still compiles when less is known of the kinds of its parameters.
-/

import Predicates.Proofs.Binding.Lookup
import Predicates.Proofs.Binding.SlotChoice
import Mathlib.Data.List.Forall2
import Mathlib.Data.List.Nodup

namespace Predicates

/-- A kind is kept, or nothing is known of it any longer. -/
def Kind.WeakensTo (kind weaker : Kind) : Prop :=
  weaker = kind ∨ weaker = .object

namespace Kind.WeakensTo

variable {kind weaker : Kind}

theorem refl (kind : Kind) : kind.WeakensTo kind :=
  Or.inl rfl

theorem isCondition (weakens : kind.WeakensTo weaker) (condition : kind.isCondition = true) :
    weaker.isCondition = true := by
  rcases weakens with rfl | rfl
  · exact condition
  · rfl

/-- What can be negated can still be negated. -/
theorem canNegate (weakens : kind.WeakensTo weaker)
    (accepted : kind.isNumeric = true ∨ kind = .object) :
    weaker.isNumeric = true ∨ weaker = .object := by
  rcases weakens with rfl | rfl
  · exact accepted
  · exact Or.inr rfl

end Kind.WeakensTo

namespace Slot

variable {slots weaker : List Slot} {slot : Slot}

/-- Kinds of slots become objects, slots are added, and all of them change their places. The names
stay distinct. -/
structure Weakening (slots weaker : List Slot) : Prop where
  distinct : (weaker.map Slot.name).Nodup
  rearranged : ∃ changed added,
    List.Forall₂ (fun old new => new.name = old.name ∧ old.kind.WeakensTo new.kind) slots changed ∧
      weaker.Perm (changed ++ added)

/-- Each name keeps its kind, or nothing is known of it any longer. -/
def WeakenTo (slots weaker : List Slot) : Prop :=
  ∀ name kind, kindOf? slots name = some kind →
    ∃ other, kindOf? weaker name = some other ∧ kind.WeakensTo other

/-- Where names are distinct, each slot gives its kind to its name. -/
theorem kindOf?_of_mem (distinct : (slots.map Slot.name).Nodup) (member : slot ∈ slots) :
    kindOf? slots slot.name = some slot.kind := by
  cases placed : position? slot.name slots with
  | none => exact absurd (List.mem_map_of_mem member) (position?_eq_none.mp placed)
  | some position =>
      obtain ⟨other, found, named⟩ := position?_eq_some placed
      have same : other = slot :=
        List.inj_on_of_nodup_map distinct (List.mem_of_getElem? found) member named
      rw [kindOf?, placed, Option.bind_some, found, same]
      rfl

/-- The kind of a name is the kind of a slot with this name. -/
theorem exists_of_kindOf? {name : String} {kind : Kind} (slotted : kindOf? slots name = some kind) :
    ∃ slot ∈ slots, slot.name = name ∧ slot.kind = kind := by
  obtain ⟨position, placed, declared⟩ := Option.bind_eq_some_iff.mp slotted
  obtain ⟨slot, found, named⟩ := position?_eq_some placed
  rw [found] at declared
  exact ⟨slot, List.mem_of_getElem? found, named, Option.some.inj declared⟩

/-- Each slot has a slot of its name and of a weaker kind at the same place. -/
theorem exists_of_weakened {changed : List Slot}
    (alike : List.Forall₂ (fun old new => new.name = old.name ∧ old.kind.WeakensTo new.kind)
      slots changed) (member : slot ∈ slots) :
    ∃ other ∈ changed, other.name = slot.name ∧ slot.kind.WeakensTo other.kind := by
  induction alike with
  | nil => cases member
  | cons first others inductionHypothesis =>
      rcases List.mem_cons.mp member with rfl | member
      · exact ⟨_, List.mem_cons_self, first⟩
      · obtain ⟨other, found, weakened⟩ := inductionHypothesis member
        exact ⟨other, List.mem_cons_of_mem _ found, weakened⟩

theorem Weakening.weakenTo (weakening : Weakening slots weaker) : WeakenTo slots weaker := by
  obtain ⟨changed, added, alike, rearranged⟩ := weakening.rearranged
  intro name kind slotted
  obtain ⟨slot, member, rfl, rfl⟩ := exists_of_kindOf? slotted
  obtain ⟨other, found, named, weakened⟩ := exists_of_weakened alike member
  have kept : other ∈ weaker := rearranged.mem_iff.mpr (List.mem_append_left added found)
  exact ⟨other.kind, named ▸ kindOf?_of_mem weakening.distinct kept, weakened⟩

end Slot

/-- An expression that passes the check passes it with the weaker kinds too, and its own kind is
weakened at most. -/
theorem Expression.check_of_weakenTo {slots weaker : List Slot} (weakens : Slot.WeakenTo slots weaker)
    {expression : Expression} {kind : Kind} (checked : expression.check slots = .ok kind) :
    ∃ other, expression.check weaker = .ok other ∧ kind.WeakensTo other := by
  induction expression generalizing kind with
  | literal value => exact ⟨kind, checked, .refl kind⟩
  | identifier name =>
      obtain ⟨other, slotted, weakened⟩ := weakens name kind (check_identifier_eq_ok.mp checked)
      exact ⟨other, check_identifier_eq_ok.mpr slotted, weakened⟩
  | comparison operator left right leftHypothesis rightHypothesis =>
      obtain ⟨rfl, ⟨leftKind, leftChecked⟩, rightKind, rightChecked⟩ :=
        check_comparison_eq_ok.mp checked
      obtain ⟨leftOther, leftAgain, -⟩ := leftHypothesis leftChecked
      obtain ⟨rightOther, rightAgain, -⟩ := rightHypothesis rightChecked
      exact ⟨.bool, check_comparison_eq_ok.mpr ⟨rfl, ⟨_, leftAgain⟩, _, rightAgain⟩, .refl _⟩
  | logical connective operands inductionHypothesis =>
      obtain ⟨rfl, conditions⟩ := check_logical_eq_ok.mp checked
      refine ⟨.bool, check_logical_eq_ok.mpr ⟨rfl, ?_⟩, .refl _⟩
      intro operand member
      obtain ⟨inner, innerChecked, condition⟩ := conditions operand member
      obtain ⟨other, again, weakened⟩ := inductionHypothesis operand member innerChecked
      exact ⟨other, again, weakened.isCondition condition⟩
  | unary operator operand inductionHypothesis =>
      cases operator with
      | not =>
          obtain ⟨rfl, inner, innerChecked, condition⟩ := check_not_eq_ok.mp checked
          obtain ⟨other, again, weakened⟩ := inductionHypothesis innerChecked
          exact ⟨.bool, check_not_eq_ok.mpr ⟨rfl, other, again, weakened.isCondition condition⟩,
            .refl _⟩
      | minus =>
          obtain ⟨innerChecked, accepted⟩ := check_minus_eq_ok.mp checked
          obtain ⟨other, again, weakened⟩ := inductionHypothesis innerChecked
          exact ⟨other, check_minus_eq_ok.mpr ⟨again, weakened.canNegate accepted⟩, weakened⟩

theorem compile_of_check {text : String} {slots : List Slot} {root : Expression} {kind : Kind}
    (parsed : parse text = .ok root) (checked : root.check slots = .ok kind)
    (condition : kind.isCondition = true) : compile text slots = .ok ⟨text, slots, root, kind⟩ := by
  simp only [compile, parsed, checked, Outcome.mapError_ok, bind, Except.bind, condition, if_true]
  rfl

/-- A text that compiles does so with the weaker kinds too, and its tree stays the same. -/
theorem compile_of_weakenTo {text : String} {slots weaker : List Slot} {compiled : Compiled}
    (weakens : Slot.WeakenTo slots weaker) (compiles : compile text slots = .ok compiled) :
    ∃ other, compile text weaker = .ok other ∧ other.root = compiled.root := by
  obtain ⟨-, kind, checked, condition⟩ := compile_eq_ok compiles
  obtain ⟨other, again, weakened⟩ := Expression.check_of_weakenTo weakens checked
  exact ⟨_, compile_of_check (parse_of_compile compiles) again (weakened.isCondition condition),
    rfl⟩

/-- Each node of a compiled text has a kind, which is weakened at most. -/
theorem nodes_of_weakenTo {text : String} {slots weaker : List Slot} {compiled : Compiled}
    {node : Expression} (weakens : Slot.WeakenTo slots weaker)
    (compiles : compile text slots = .ok compiled) (below : compiled.root.HasNode node) :
    ∃ kind other, node.check slots = .ok kind ∧ node.check weaker = .ok other ∧
      kind.WeakensTo other := by
  obtain ⟨-, rootKind, checked, -⟩ := compile_eq_ok compiles
  obtain ⟨kind, nodeChecked⟩ := below.check checked
  obtain ⟨other, again, weakened⟩ := Expression.check_of_weakenTo weakens nodeChecked
  exact ⟨kind, other, nodeChecked, again, weakened⟩

end Predicates
