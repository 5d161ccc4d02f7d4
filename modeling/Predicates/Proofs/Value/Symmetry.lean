/-
This file shows that equality does not depend on the sides of its values, and that order is swapped
with them.
-/

import Predicates.Proofs.Number.Consistency
import Predicates.Proofs.Value.Signaling
import Mathlib.Data.List.Perm.Subperm
import Mathlib.Data.List.Zip

namespace Predicates

theorem swapped_eq_iff {order : Option Ordering} :
    order.map Ordering.swap = some .eq ↔ order = some .eq := by
  cases order with
  | none => simp
  | some order => cases order <;> simp

namespace Number

variable {left right : Number}

/-- Nothing is equal to what is not a number or comes before it. -/
theorem order?_eq_none (undefined : left.isNaN = true ∨ right.isNaN = true) :
    left.order? right = none := by
  rw [order?]
  split
  · apply Decimal.order?_eq_none
    rwa [isNaN_toDecimal, isNaN_toDecimal]
  · rename_i binary
    simp only [Bool.or_eq_true, not_or, Bool.not_eq_true] at binary
    have absent {number : Number} (notDecimal : number.isDecimal = false)
        (notNumber : number.isNaN = true) : number.gridPlace? = none := by
      cases number with
      | integer value => cases notNumber
      | binary value =>
          cases value with
          | nan => rfl
          | _ => cases notNumber
      | decimal value => cases notDecimal
    rcases undefined with leftNaN | rightNaN
    · rw [absent binary.1 leftNaN]
    · rw [absent binary.2 rightNaN]
      cases left.gridPlace? <;> rfl

theorem equals_comm (left right : Number) : left.equals right = right.equals left := by
  have same : left.order? right = some .eq ↔ right.order? left = some .eq := by
    by_cases undefined : left.isNaN = true ∨ right.isNaN = true
    · rw [order?_eq_none undefined, order?_eq_none undefined.symm]
    · rw [not_or, Bool.not_eq_true, Bool.not_eq_true] at undefined
      rw [order?_swap undefined.1 undefined.2, swapped_eq_iff]
  simp only [equals, Bool.or_comm left.isSignaling, same]

theorem isSameObject_comm (left right : Number) :
    left.isSameObject right = right.isSameObject left := by
  by_cases same : left = right
  · rw [same]
  · simp [isSameObject, same, Ne.symm same]

theorem sameValue_comm (left right : Number) : left.sameValue right = right.sameValue left := by
  have same : left.toExactDecimal.order? right.toExactDecimal = some .eq ↔
      right.toExactDecimal.order? left.toExactDecimal = some .eq := by
    rw [Decimal.order?_swap, swapped_eq_iff]
  simp only [sameValue, isSameObject_comm left, Bool.or_comm left.isSignaling, same]

end Number

namespace Value

/-- A value is comparable when its mappings have distinct keys and none of its numbers is signaling,
at any depth. -/
inductive Comparable : Value → Prop where
  | null : Comparable .null
  | bool (truth : Bool) : Comparable (.bool truth)
  | number {number : Number} (quiet : number.isSignaling = false) : Comparable (.number number)
  | string (text : String) : Comparable (.string text)
  | list {members : List Value} (all : ∀ member ∈ members, Comparable member) :
      Comparable (.list members)
  | dict {entries : List (String × Value)} (distinct : (entries.map Prod.fst).Nodup)
      (all : ∀ entry ∈ entries, Comparable entry.2) : Comparable (.dict entries)

theorem Comparable.quiet {number : Number} (comparable : (Value.number number).Comparable) :
    number.isSignaling = false := by
  cases comparable with
  | number quiet => exact quiet

theorem Comparable.members {members : List Value} (comparable : (Value.list members).Comparable) :
    ∀ member ∈ members, member.Comparable := by
  cases comparable with
  | list all => exact all

theorem Comparable.entries {entries : List (String × Value)}
    (comparable : (Value.dict entries).Comparable) :
    (entries.map Prod.fst).Nodup ∧ ∀ entry ∈ entries, entry.2.Comparable := by
  cases comparable with
  | dict distinct all => exact ⟨distinct, all⟩

theorem Comparable.not_signaling {value : Value} (comparable : value.Comparable) :
    ¬ value.Signaling := by
  intro signaling
  induction signaling with
  | number signaling =>
      rw [comparable.quiet] at signaling
      cases signaling
  | list isMember _ inductionHypothesis =>
      exact inductionHypothesis (comparable.members _ isMember)
  | dict isEntry _ inductionHypothesis =>
      exact inductionHypothesis (comparable.entries.2 _ isEntry)

theorem sameNumber_comm (left right : Value) : left.sameNumber right = right.sameNumber left := by
  unfold sameNumber
  cases left.memberNumber? with
  | none => cases right.memberNumber? <;> rfl
  | some leftNumber =>
      cases right.memberNumber? with
      | none => rfl
      | some rightNumber => exact leftNumber.sameValue_comm rightNumber

/-- Lists are the same when they have the same members in the same places. -/
theorem sameMember_list_iff {left right : List Value} :
    (Value.list left).sameMember (.list right) = .ok true ↔
      List.Forall₂ (fun member other => member.sameMember other = .ok true) left right := by
  have each : sameMembers left right = .ok true ↔
      List.Forall₂ (fun member other => member.sameMember other = .ok true) left right := by
    induction left generalizing right with
    | nil => cases right <;> simp [sameMembers]
    | cons first rest inductionHypothesis =>
        cases right with
        | nil => simp [sameMembers]
        | cons other others =>
            rw [sameMembers, List.forall₂_cons, ← inductionHypothesis]
            split
            · rename_i firstSame
              rw [firstSame, eq_self, true_and]
            · rename_i firstOther
              exact iff_of_false firstOther fun same => firstOther same.1
  rw [sameMember, ← each]
  split
  · rfl
  · rename_i lengths
    simp only [Except.ok.injEq, Bool.false_eq_true, false_iff]
    exact fun same => lengths (each.mp same).length_eq

section Entries

variable {left right : List (String × Value)}

/-- Each entry on the left has a partner with its key on the right. -/
theorem sameEntries_iff : sameEntries left right = .ok true ↔
    ∀ entry ∈ left, ∃ other, right.lookup entry.1 = some other ∧
      entry.2.sameMember other = .ok true := by
  induction left with
  | nil => simp [sameEntries]
  | cons first rest inductionHypothesis =>
      obtain ⟨key, value⟩ := first
      rw [sameEntries, List.forall_mem_cons, ← inductionHypothesis]
      cases right.lookup key with
      | none => simp
      | some partner =>
          simp only [Option.some.injEq, exists_eq_left']
          split
          · rename_i firstSame
            rw [firstSame, eq_self, true_and]
          · rename_i firstOther
            exact iff_of_false firstOther fun same => firstOther same.1

theorem sameMember_dict_iff : (Value.dict left).sameMember (.dict right) = .ok true ↔
    left.length = right.length ∧ sameEntries left right = .ok true := by
  rw [sameMember]
  split
  · simp [*]
  · simp [*]

/-- When each key on the left is found among as many keys on the right, no key on the right is
left over. -/
theorem sameEntries_flip (leftDistinct : (left.map Prod.fst).Nodup)
    (rightDistinct : (right.map Prod.fst).Nodup) (length : left.length = right.length)
    (each : ∀ entry ∈ left, ∀ other ∈ right,
      entry.2.sameMember other.2 = .ok true → other.2.sameMember entry.2 = .ok true)
    (same : sameEntries left right = .ok true) : sameEntries right left = .ok true := by
  rw [sameEntries_iff] at same ⊢
  have subset : left.map Prod.fst ⊆ right.map Prod.fst := by
    intro key member
    obtain ⟨entry, inLeft, rfl⟩ := List.mem_map.mp member
    obtain ⟨other, found, -⟩ := same entry inLeft
    exact List.mem_map.mpr ⟨(entry.1, other), Association.mem_of_lookup found, rfl⟩
  have sameKeys : (left.map Prod.fst).Perm (right.map Prod.fst) :=
    (List.subperm_of_subset leftDistinct subset).perm_of_length_le (by simp [length])
  intro entry inRight
  obtain ⟨partner, inLeft, sameKey⟩ :=
    List.mem_map.mp (sameKeys.mem_iff.mpr (List.mem_map_of_mem inRight))
  obtain ⟨other, found, alike⟩ := same partner inLeft
  rw [sameKey, Association.lookup_of_mem rightDistinct inRight] at found
  obtain rfl : entry.2 = other := Option.some.inj found
  exact ⟨partner.2, sameKey ▸ Association.lookup_of_mem leftDistinct inLeft,
    each partner inLeft entry inRight alike⟩

end Entries

/-- Members of objects that are the same are so from either side. -/
theorem sameMember_flip {left right : Value} (leftComparable : left.Comparable)
    (rightComparable : right.Comparable) (same : left.sameMember right = .ok true) :
    right.sameMember left = .ok true := by
  induction left using memberInduction generalizing right with
  | null =>
      cases right with
      | null => rfl
      | _ => cases same
  | bool truth =>
      cases right with
      | bool other => exact (sameNumber_comm (.bool other) (.bool truth)).trans same
      | number other => exact (sameNumber_comm (.number other) (.bool truth)).trans same
      | _ => cases same
  | number number =>
      cases right with
      | bool other => exact (sameNumber_comm (.bool other) (.number number)).trans same
      | number other => exact (sameNumber_comm (.number other) (.number number)).trans same
      | _ => cases same
  | string text =>
      cases right with
      | string other =>
          rw [sameMember, Except.ok.injEq, decide_eq_true_eq] at same ⊢
          exact same.symm
      | _ => cases same
  | list members inductionHypothesis =>
      cases right with
      | list others =>
          rw [sameMember_list_iff, List.forall₂_iff_zip] at same ⊢
          obtain ⟨length, each⟩ := same
          refine ⟨length.symm, fun {other member} paired => ?_⟩
          have swapped : (member, other) ∈ members.zip others := by
            rw [← List.zip_swap]
            exact List.mem_map.mpr ⟨(other, member), paired, rfl⟩
          obtain ⟨inLeft, inRight⟩ := List.of_mem_zip swapped
          exact inductionHypothesis member inLeft (leftComparable.members member inLeft)
            (rightComparable.members other inRight) (each swapped)
      | _ => cases same
  | dict entries inductionHypothesis =>
      cases right with
      | dict others =>
          obtain ⟨leftDistinct, leftAll⟩ := leftComparable.entries
          obtain ⟨rightDistinct, rightAll⟩ := rightComparable.entries
          obtain ⟨length, entriesSame⟩ := sameMember_dict_iff.mp same
          exact sameMember_dict_iff.mpr ⟨length.symm,
            sameEntries_flip leftDistinct rightDistinct length
              (fun entry inLeft other inRight =>
                inductionHypothesis entry inLeft (leftAll entry inLeft) (rightAll other inRight))
              entriesSame⟩
      | _ => cases same

theorem exists_sameMember {left right : Value} (leftComparable : left.Comparable)
    (rightComparable : right.Comparable) : ∃ same, left.sameMember right = .ok same := by
  cases found : left.sameMember right with
  | ok same => exact ⟨same, rfl⟩
  | error signal =>
      rcases (sameMember_eq_error found).2 with leftSignaling | rightSignaling
      · exact absurd leftSignaling leftComparable.not_signaling
      · exact absurd rightSignaling rightComparable.not_signaling

theorem sameMember_comm {left right : Value} (leftComparable : left.Comparable)
    (rightComparable : right.Comparable) : left.sameMember right = right.sameMember left := by
  obtain ⟨forward, forwardFound⟩ := exists_sameMember leftComparable rightComparable
  obtain ⟨backward, backwardFound⟩ := exists_sameMember rightComparable leftComparable
  have same : left.sameMember right = .ok true ↔ right.sameMember left = .ok true :=
    ⟨sameMember_flip leftComparable rightComparable, sameMember_flip rightComparable leftComparable⟩
  rw [forwardFound, backwardFound, Except.ok.injEq, Except.ok.injEq] at same
  rw [forwardFound, backwardFound, Bool.eq_iff_iff.mpr same]

theorem equals_comm {left right : Value} (leftComparable : left.Comparable)
    (rightComparable : right.Comparable) : left.equals right = right.equals left := by
  have same := sameMember_comm leftComparable rightComparable
  have sameKinds : left.kind = right.kind ↔ right.kind = left.kind := eq_comm
  cases left with
  | number leftNumber =>
      cases right with
      | number rightNumber => exact leftNumber.equals_comm rightNumber
      | _ => simp only [equals, same, sameKinds]
  | _ => cases right <;> simp only [equals, same, sameKinds]

end Value

end Predicates
