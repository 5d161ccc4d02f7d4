/-
This file shows that values are compared without a signal unless one of them is or holds a signaling
number.
-/

import Predicates.Expression.Evaluation
import Predicates.Proofs.Association
import Predicates.Proofs.Number.Signals

namespace Predicates

/-- One object is the same as itself, and all others are refused when one of them is signaling. -/
theorem Number.sameValue_eq_error {left right : Number} {signal : DecimalSignal}
    (failed : left.sameValue right = .error signal) :
    signal = .invalidOperation ∧ (left.isSignaling = true ∨ right.isSignaling = true) := by
  unfold sameValue at failed
  split at failed
  · cases failed
  · split at failed
    · rename_i signaling
      exact ⟨(Except.error.inj failed).symm, Bool.or_eq_true_iff.mp signaling⟩
    · cases failed

namespace Value

/-- A property of values is proved for each form from the members inside. -/
@[elab_as_elim]
theorem memberInduction {motive : Value → Prop} (null : motive .null)
    (bool : ∀ truth, motive (.bool truth)) (number : ∀ number, motive (.number number))
    (string : ∀ text, motive (.string text))
    (list : ∀ members, (∀ member ∈ members, motive member) → motive (.list members))
    (dict : ∀ entries, (∀ entry ∈ entries, motive entry.2) → motive (.dict entries))
    (value : Value) : motive value := by
  refine @Value.rec motive (fun members => ∀ member ∈ members, motive member)
    (fun entries => ∀ entry ∈ entries, motive entry.2) (fun entry => motive entry.2)
    null bool number string list dict ?_ ?_ ?_ ?_ (fun _ _ holds => holds) value
  · intro member impossible
    cases impossible
  · intro first rest firstHolds restHold
    exact List.forall_mem_cons.mpr ⟨firstHolds, restHold⟩
  · intro entry impossible
    cases impossible
  · intro first rest firstHolds restHold
    exact List.forall_mem_cons.mpr ⟨firstHolds, restHold⟩

/-- A value is signaling when one of its numbers is, at any depth. -/
inductive Signaling : Value → Prop where
  | number {number : Number} (signaling : number.isSignaling = true) : Signaling (.number number)
  | list {members : List Value} {member : Value} (isMember : member ∈ members)
      (signaling : Signaling member) : Signaling (.list members)
  | dict {entries : List (String × Value)} {entry : String × Value} (isEntry : entry ∈ entries)
      (signaling : Signaling entry.2) : Signaling (.dict entries)

variable {left right value : Value} {signal : DecimalSignal}

/-- Only numbers are compared as numbers, and booleans are never signaling. -/
theorem Signaling.of_memberNumber {number : Number} (counted : value.memberNumber? = some number)
    (signaling : number.isSignaling = true) : value.Signaling := by
  cases value with
  | bool truth =>
      cases counted
      cases signaling
  | number inner =>
      cases counted
      exact .number signaling
  | _ => cases counted

theorem sameNumber_eq_error (failed : left.sameNumber right = .error signal) :
    signal = .invalidOperation ∧ (left.Signaling ∨ right.Signaling) := by
  unfold sameNumber at failed
  split at failed
  · rename_i leftCounted rightCounted
    exact (Number.sameValue_eq_error failed).imp_right
      (Or.imp (.of_memberNumber leftCounted) (.of_memberNumber rightCounted))
  · cases failed

/-- Lists are refused where a pair of their members is. -/
theorem sameMembers_eq_error {left right : List Value}
    (failed : sameMembers left right = .error signal) :
    ∃ member ∈ left, ∃ other ∈ right, member.sameMember other = .error signal := by
  induction left generalizing right with
  | nil => cases right <;> cases failed
  | cons first rest inductionHypothesis =>
      cases right with
      | nil => cases failed
      | cons other others =>
          rw [sameMembers] at failed
          split at failed
          · obtain ⟨member, inRest, next, inOthers, raised⟩ := inductionHypothesis failed
            exact ⟨member, List.mem_cons_of_mem first inRest, next,
              List.mem_cons_of_mem other inOthers, raised⟩
          · exact ⟨first, List.mem_cons_self, other, List.mem_cons_self, failed⟩

/-- Mappings are refused where an entry is against the entry with its key. -/
theorem sameEntries_eq_error {left right : List (String × Value)}
    (failed : sameEntries left right = .error signal) :
    ∃ entry ∈ left, ∃ other ∈ right, entry.2.sameMember other.2 = .error signal := by
  induction left with
  | nil => cases failed
  | cons first rest inductionHypothesis =>
      obtain ⟨key, value⟩ := first
      rw [sameEntries] at failed
      split at failed
      · cases failed
      · rename_i other found
        split at failed
        · obtain ⟨entry, inRest, partner⟩ := inductionHypothesis failed
          exact ⟨entry, List.mem_cons_of_mem _ inRest, partner⟩
        · exact ⟨(key, value), List.mem_cons_self, (key, other),
              Association.mem_of_lookup found, failed⟩

/-- Members of objects are refused only for a signaling side. -/
theorem sameMember_eq_error (failed : left.sameMember right = .error signal) :
    signal = .invalidOperation ∧ (left.Signaling ∨ right.Signaling) := by
  induction left using memberInduction generalizing right with
  | list members inductionHypothesis =>
      cases right with
      | list others =>
          rw [sameMember] at failed
          split at failed
          · obtain ⟨member, isMember, other, isOther, raised⟩ := sameMembers_eq_error failed
            exact (inductionHypothesis member isMember raised).imp_right
              (Or.imp (.list isMember) (.list isOther))
          · cases failed
      | _ => cases failed
  | dict entries inductionHypothesis =>
      cases right with
      | dict others =>
          rw [sameMember] at failed
          split at failed
          · obtain ⟨entry, isEntry, other, isOther, raised⟩ := sameEntries_eq_error failed
            exact (inductionHypothesis entry isEntry raised).imp_right
              (Or.imp (.dict isEntry) (.dict isOther))
          · cases failed
      | _ => cases failed
  | null => cases right <;> cases failed
  | string text => cases right <;> cases failed
  | bool truth => cases right <;> exact sameNumber_eq_error failed
  | number number => cases right <;> exact sameNumber_eq_error failed

theorem equals_eq_error (failed : left.equals right = .error signal) :
    signal = .invalidOperation ∧ (left.Signaling ∨ right.Signaling) := by
  unfold equals at failed
  split at failed
  · exact (Number.equals_eq_error.mp failed).imp_right (Or.imp .number .number)
  · split at failed
    · exact sameMember_eq_error failed
    · cases failed

theorem compare_eq_error (failed : left.compare right = .error signal) :
    signal = .invalidOperation ∧ (left.Signaling ∨ right.Signaling) := by
  unfold compare at failed
  split at failed
  · obtain ⟨same, leftSignaling | ⟨-, rightSignaling⟩⟩ := Number.compare_eq_error.mp failed
    · exact ⟨same, Or.inl (.number leftSignaling)⟩
    · exact ⟨same, Or.inr (.number rightSignaling)⟩
  · simp at failed
  · simp at failed

/-- A comparison fails only for a signaling side. -/
theorem holds_eq_error {operator : Comparison}
    (failed : operator.holds left right = .error signal) :
    signal = .invalidOperation ∧ (left.Signaling ∨ right.Signaling) := by
  have ordered {accepts : Ordering → Bool}
      (failed : ((left.compare right).map fun order => order.any accepts) = .error signal) :
      signal = .invalidOperation ∧ (left.Signaling ∨ right.Signaling) :=
    compare_eq_error (Outcome.map_eq_error.mp failed)
  cases operator with
  | equal => exact equals_eq_error failed
  | notEqual => exact equals_eq_error (Outcome.map_eq_error.mp failed)
  | below => exact ordered failed
  | atMost => exact ordered failed
  | above => exact ordered failed
  | atLeast => exact ordered failed

/-- Values that are not signaling are equal or not, and they have an order or none. -/
theorem compared_of_not_signaling (leftQuiet : ¬ left.Signaling) (rightQuiet : ¬ right.Signaling) :
    (∃ truth, left.equals right = .ok truth) ∧ ∃ order, left.compare right = .ok order := by
  have quiet : ¬ (left.Signaling ∨ right.Signaling) := not_or.mpr ⟨leftQuiet, rightQuiet⟩
  constructor
  · cases found : left.equals right with
    | ok truth => exact ⟨truth, rfl⟩
    | error signal => exact absurd (equals_eq_error found).2 quiet
  · cases found : left.compare right with
    | ok order => exact ⟨order, rfl⟩
    | error signal => exact absurd (compare_eq_error found).2 quiet

end Value

end Predicates
