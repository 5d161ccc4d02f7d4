/-
This file shows that a compiled expression depends only on the values of its names, whatever slots
carry these values.
-/

import Predicates.Proofs.Expression.Blame
import Predicates.Proofs.Expression.Locality

namespace Predicates

/-- The position of a name is the place of a slot with this name. -/
theorem Slot.position?_eq_some {name : String} {slots : List Slot} {position : Nat}
    (placed : Slot.position? name slots = some position) :
    ∃ slot, slots[position]? = some slot ∧ slot.name = name := by
  induction slots generalizing position with
  | nil => cases placed
  | cons slot rest inductionHypothesis =>
      rw [Slot.position?] at placed
      split at placed
      · rename_i later found
        cases placed
        rw [List.getElem?_cons_succ]
        exact inductionHypothesis found
      · split at placed
        · rename_i same
          cases placed
          exact ⟨slot, List.getElem?_cons_zero, same⟩
        · cases placed

/-- A bound expression takes the value of a name from a slot with this name. -/
theorem Bound.mem_zip_of_environment {bound : Bound} {name : String} {value : Value}
    (found : bound.environment name = some value) :
    ∃ slot, (slot, value) ∈ bound.compiled.slots.zip bound.values ∧ slot.name = name := by
  obtain ⟨position, placed, valued⟩ := Option.bind_eq_some_iff.mp found
  obtain ⟨slot, slotted, named⟩ := Slot.position?_eq_some placed
  exact ⟨slot, List.mem_of_getElem? (List.getElem?_zip_eq_some.mpr ⟨slotted, valued⟩), named⟩

/-- Each name of a checked expression has a slot. -/
theorem Expression.kindOf?_of_check {expression : Expression} {slots : List Slot} {kind : Kind}
    {name : String} (checked : expression.check slots = .ok kind)
    (occurs : name ∈ expression.occurrences) :
    ∃ declared, Slot.kindOf? slots name = some declared := by
  obtain ⟨nodeKind, nodeChecked⟩ := (hasNode_identifier_iff.mpr occurs).check checked
  exact ⟨nodeKind, check_identifier_eq_ok.mp nodeChecked⟩

/-- Each name of a compiled expression has the value that stands at one of its slots. -/
theorem exists_slot_of_occurs {text : String} {slots : List Slot} {compiled : Compiled}
    {values : List Value} {bound : Bound} {name : String}
    (compiles : compile text slots = .ok compiled) (binds : compiled.bind values = .ok bound)
    (occurs : name ∈ compiled.root.occurrences) :
    ∃ slot value, bound.environment name = some value ∧ (slot, value) ∈ slots.zip values ∧
      slot.name = name := by
  obtain ⟨sameSlots, kind, checked, -⟩ := compile_eq_ok compiles
  obtain ⟨declared, slotted⟩ := Expression.kindOf?_of_check checked occurs
  obtain ⟨value, found, -⟩ := Bound.admits binds name declared (sameSlots ▸ slotted)
  obtain ⟨rfl, -, -⟩ := Compiled.bind_eq_ok binds
  obtain ⟨slot, member, named⟩ := Bound.mem_zip_of_environment found
  exact ⟨slot, value, found, sameSlots ▸ member, named⟩

/-- Two signatures under which a text compiles give it the same outcome when they give the same
values to its names, whatever kinds they declare, in whatever order their slots stand and whatever
other slots they have. -/
theorem execute_eq_of_same_values {text : String} {firstSlots secondSlots : List Slot}
    {first second : Compiled} {firstValues secondValues : List Value}
    {firstBound secondBound : Bound} (firstCompiles : compile text firstSlots = .ok first)
    (secondCompiles : compile text secondSlots = .ok second)
    (firstBinds : first.bind firstValues = .ok firstBound)
    (secondBinds : second.bind secondValues = .ok secondBound)
    (same : ∀ name ∈ first.root.occurrences, ∀ left ∈ firstSlots.zip firstValues,
      ∀ right ∈ secondSlots.zip secondValues,
        left.1.name = name → right.1.name = name → left.2 = right.2) :
    first.execute firstValues = second.execute secondValues := by
  have sameRoot : first.root = second.root :=
    Except.ok.inj ((parse_of_compile firstCompiles).symm.trans (parse_of_compile secondCompiles))
  have agree : ∀ name ∈ first.root.occurrences,
      firstBound.environment name = secondBound.environment name := by
    intro name occurs
    obtain ⟨left, leftValue, leftFound, leftMember, leftNamed⟩ :=
      exists_slot_of_occurs firstCompiles firstBinds occurs
    obtain ⟨right, rightValue, rightFound, rightMember, rightNamed⟩ :=
      exists_slot_of_occurs secondCompiles secondBinds (sameRoot ▸ occurs)
    have equal : leftValue = rightValue :=
      same name occurs _ leftMember _ rightMember leftNamed rightNamed
    rw [leftFound, rightFound, equal]
  have sameValue : firstBound.evaluate = secondBound.evaluate := by
    obtain ⟨rfl, -, -⟩ := Compiled.bind_eq_ok firstBinds
    obtain ⟨rfl, -, -⟩ := Compiled.bind_eq_ok secondBinds
    unfold Bound.evaluate
    rw [Expression.evaluate_congr agree, sameRoot]
  rw [Compiled.execute_of_bind firstBinds, Compiled.execute_of_bind secondBinds, Bound.run,
    Bound.run, sameValue]

/-- An integer in a decimal slot and a text behind an unused slot make no difference. -/
theorem execute_eq_of_same_values_widened : ∃ first second firstBound secondBound,
    compile "-x < 2 && y" [⟨"x", .int⟩, ⟨"y", .object⟩] = .ok first ∧
      compile "-x < 2 && y" [⟨"y", .bool⟩, ⟨"z", .string⟩, ⟨"x", .decimal⟩] = .ok second ∧
      first.bind [.number (.integer 3), .null] = .ok firstBound ∧
      second.bind [.null, .string "unused", .number (.integer 3)] = .ok secondBound ∧
      first.execute [.number (.integer 3), .null] =
        second.execute [.null, .string "unused", .number (.integer 3)] := by
  let root : Expression := .logical .and
    [.comparison .below (.unary .minus (.identifier "x")) (.literal (.integer 2)), .identifier "y"]
  let first : Compiled := ⟨"-x < 2 && y", [⟨"x", .int⟩, ⟨"y", .object⟩], root, .bool⟩
  let second : Compiled :=
    ⟨"-x < 2 && y", [⟨"y", .bool⟩, ⟨"z", .string⟩, ⟨"x", .decimal⟩], root, .bool⟩
  have firstCompiles : compile "-x < 2 && y" first.slots = .ok first := by
    with_unfolding_all rfl
  have secondCompiles : compile "-x < 2 && y" second.slots = .ok second := by
    with_unfolding_all rfl
  have firstBinds : first.bind [.number (.integer 3), .null] =
    .ok ⟨first, [.number (.integer 3), .null]⟩ := rfl
  have secondBinds : second.bind [.null, .string "unused", .number (.integer 3)] =
    .ok ⟨second, [.null, .string "unused", .number (.integer 3)]⟩ := rfl
  refine ⟨first, second, _, _, firstCompiles, secondCompiles, firstBinds, secondBinds,
    execute_eq_of_same_values firstCompiles secondCompiles firstBinds secondBinds ?_⟩
  intro name occurs left leftMember right rightMember leftNamed rightNamed
  have sameName := leftNamed.trans rightNamed.symm
  simp only [first, second, List.zip_cons_cons, List.zip_nil_left, List.mem_cons,
    List.not_mem_nil, or_false] at leftMember rightMember
  rcases leftMember with rfl | rfl
  · rcases rightMember with rfl | rfl | rfl
    · exact absurd sameName (by decide)
    · exact absurd sameName (by decide)
    · rfl
  · rcases rightMember with rfl | rfl | rfl
    · rfl
    · exact absurd sameName (by decide)
    · exact absurd sameName (by decide)

end Predicates
