/-
This file shows that a compiled expression is bound to parameters by their names, which must be
exactly those of its slots, and that the order of the parameters does not matter.
-/

import Predicates.Proofs.Binding.Lookup
import Predicates.Proofs.Binding.SlotChoice
import Mathlib.Data.List.Perm.Subperm

namespace Predicates

/-- A failure of the names tells the number of slots and the number of parameters. -/
def Failure.arity? : Failure → Option (Nat × Nat)
  | .binding (.arity expected actual) => some (expected, actual)
  | .binding (.missing expected actual _) => some (expected, actual)
  | _ => none

namespace Parameters

variable {parameters other : Parameters} {names : List String} {name : String} {value : Value}

/-- The parameters have these names and no others. -/
def NamedAs (parameters : Parameters) (names : List String) : Prop :=
  ∀ name, name ∈ parameters.keys ↔ name ∈ names

/-- The values under the names do not depend on the order of the parameters. -/
theorem value?_of_perm (reordered : other.items.Perm parameters.items) :
    other.value? = parameters.value? := by
  funext name
  apply Option.ext
  intro value
  rw [value?_eq_some, value?_eq_some, reordered.mem_iff]

/-- As many parameters as names have exactly these names when none of them is missing. -/
theorem namedAs_iff (distinct : names.Nodup) :
    parameters.NamedAs names ↔ parameters.size = names.length ∧ parameters.missing names = [] := by
  have counted : parameters.size = parameters.keys.length := (List.length_map _).symm
  rw [missing_eq_nil, counted]
  constructor
  · intro same
    have reordered : parameters.keys.Perm names :=
      (List.perm_ext_iff_of_nodup parameters.distinct distinct).mpr same
    exact ⟨reordered.length_eq, fun name member => (same name).mpr member⟩
  · rintro ⟨length, found⟩ name
    -- Distinct names that are all found leave no room for a parameter of another name.
    have reordered : names.Perm parameters.keys :=
      (List.subperm_of_subset distinct found).perm_of_length_le (Nat.le_of_eq length)
    exact reordered.mem_iff.symm

/-- Names that all have values have one value each, in their own order. -/
theorem values_of_missing (found : parameters.missing names = []) :
    (parameters.values names).map some = names.map parameters.value? := by
  have each := missing_eq_nil.mp found
  clear found
  induction names with
  | nil => rfl
  | cons name rest inductionHypothesis =>
      rw [List.forall_mem_cons] at each
      obtain ⟨value, valued⟩ := Option.isSome_iff_exists.mp (value?_isSome_iff.mpr each.1)
      have restValues := inductionHypothesis each.2
      unfold values at restValues ⊢
      rw [List.filterMap_cons_some valued, List.map_cons, List.map_cons, restValues, valued]

end Parameters

namespace Compiled

variable {compiled : Compiled} {values : List Value}

/-- Values that are refused one by one do not fit their slots. -/
theorem misfit_of_admit {slots : List Slot} {error : BindingError}
    (refused : Slot.admit slots values = .error error) :
    ∃ name declared actual, error = .misfit name declared actual := by
  induction slots generalizing values with
  | nil => cases refused
  | cons slot slots inductionHypothesis =>
      cases values with
      | nil => cases refused
      | cons value values =>
          rw [ Slot.admit] at refused
          split at refused
          · exact inductionHypothesis refused
          · cases refused
            exact ⟨_, _, _, rfl⟩

/-- Enough values for the slots never fail for their number. -/
theorem arity?_of_execute {error : ExecutionError} (length : values.length = compiled.slots.length)
    (failed : compiled.execute values = .error error) : (Failure.ofExecution error).arity? = none := by
  rcases Outcome.bind_eq_error.mp failed with unbound | ⟨bound, -, ranFailed⟩
  · obtain ⟨old, bindFailed, rfl⟩ := Outcome.mapError_eq_error.mp unbound
    rw [bind, if_pos length] at bindFailed
    rcases Outcome.bind_eq_error.mp bindFailed with refused | ⟨admitted, -, impossible⟩
    · obtain ⟨name, declared, actual, rfl⟩ := misfit_of_admit refused
      rfl
    · cases impossible
  · obtain ⟨old, -, rfl⟩ := Outcome.mapError_eq_error.mp ranFailed
    rfl

/-- Parameters under the names of the slots are run as the list of their values. -/
theorem executeByName_of_namedAs {given : Parameters} (distinct : compiled.parameterNames.Nodup)
    (named : given.NamedAs compiled.parameterNames) :
    compiled.executeByName given =
      (compiled.execute (given.values compiled.parameterNames)).mapError .ofExecution := by
  obtain ⟨size, found⟩ := (Parameters.namedAs_iff distinct).mp named
  rw [parameterNames, List.length_map] at size
  unfold executeByName
  simp only [size, found, ne_eq, not_true_eq_false, if_false]

/-- Parameters under other names are refused with both numbers. -/
theorem executeByName_of_not_namedAs {given : Parameters}
    (distinct : compiled.parameterNames.Nodup)
    (renamed : ¬ given.NamedAs compiled.parameterNames) :
    ∃ failure, compiled.executeByName given = .error failure ∧
      failure.arity? = some (compiled.slots.length, given.size) := by
  rw [Parameters.namedAs_iff distinct, parameterNames, List.length_map] at renamed
  unfold executeByName
  by_cases size : given.size = compiled.slots.length
  · have lacking : given.missing compiled.parameterNames ≠ [] := fun found => renamed ⟨size, found⟩
    simp only [size, ne_eq, not_true_eq_false, if_false, lacking, not_false_eq_true, if_true]
    exact ⟨_, rfl, rfl⟩
  · simp only [ne_eq, size, not_false_eq_true, if_true]
    exact ⟨_, rfl, rfl⟩

/-- Only the values under the names matter, and how many there are. -/
theorem executeByName_of_perm {given permuted : Parameters}
    (reordered : permuted.items.Perm given.items) :
    compiled.executeByName permuted = compiled.executeByName given := by
  have size : permuted.size = given.size := reordered.length_eq
  unfold executeByName Parameters.missing Parameters.values
  rw [size, Parameters.value?_of_perm reordered]

/-- A name of a bound expression has the value that the parameters give it. -/
theorem environment_of_values {text : String} {slots : List Slot} {given : Parameters}
    {bound : Bound} {name : String} (compiles : Predicates.compile text slots = .ok compiled)
    (valued : values.map some = compiled.parameterNames.map given.value?)
    (binds : compiled.bind values = .ok bound) (occurs : name ∈ compiled.root.occurrences) :
    ∃ value, given.value? name = some value ∧ bound.environment name = some value := by
  obtain ⟨slot, value, found, member, rfl⟩ := exists_slot_of_occurs compiles binds occurs
  obtain ⟨rfl, -⟩ := compile_eq_ok compiles
  refine ⟨value, ?_, found⟩
  obtain ⟨position, placed⟩ := List.mem_iff_getElem?.mp member
  obtain ⟨slotted, valueFound⟩ := List.getElem?_zip_eq_some.mp placed
  have same := congrArg (fun list : List (Option Value) => list[position]?) valued
  simpa [parameterNames, slotted, valueFound] using same.symm

end Compiled

/-- The slots are named by the parameters they were made from. -/
theorem parameterNames_of_compileFor {text : String} {typed : Parameters} {compiled : Compiled}
    (compiles : compileFor text typed = .ok compiled) : compiled.parameterNames = typed.keys := by
  obtain ⟨slots, -⟩ := compile_eq_ok (Outcome.mapError_eq_ok.mp compiles)
  rw [Compiled.parameterNames, slots, Parameters.slots, List.map_map]
  rfl

/-- A compiled expression refuses parameters for their number or names exactly when these names are
not those of its slots, and then both numbers are told. Otherwise it is run over the values in the
order of its slots, where each of its names has the value that the parameters give it. The order of
the parameters makes no difference. -/
theorem executeByName_exact {text : String} {typed : Parameters} {compiled : Compiled}
    (compiles : compileFor text typed = .ok compiled) (given : Parameters) :
    (∀ counts,
      (∃ failure, compiled.executeByName given = .error failure ∧ failure.arity? = some counts) ↔
        ¬ given.NamedAs compiled.parameterNames ∧
          counts = (compiled.slots.length, given.size)) ∧
    (given.NamedAs compiled.parameterNames →
      ∃ values, values.map some = compiled.parameterNames.map given.value? ∧
        compiled.executeByName given = (compiled.execute values).mapError .ofExecution ∧
        ∀ bound, compiled.bind values = .ok bound →
          ∀ name, compiled.root.HasNode (.identifier name) →
            ∃ value, given.value? name = some value ∧
              (Expression.identifier name).evaluate bound.environment = .ok value) ∧
    ∀ permuted : Parameters, permuted.items.Perm given.items →
      compiled.executeByName permuted = compiled.executeByName given := by
  have distinct : compiled.parameterNames.Nodup := by
    rw [parameterNames_of_compileFor compiles]
    exact typed.distinct
  have compiledAlone := Outcome.mapError_eq_ok.mp compiles
  have valued (named : given.NamedAs compiled.parameterNames) :=
    Parameters.values_of_missing ((Parameters.namedAs_iff distinct).mp named).2
  refine ⟨?_, ?_, fun permuted => Compiled.executeByName_of_perm⟩
  · intro counts
    constructor
    · rintro ⟨failure, failed, told⟩
      have renamed : ¬ given.NamedAs compiled.parameterNames := by
        intro named
        rw [Compiled.executeByName_of_namedAs distinct named] at failed
        obtain ⟨error, executed, rfl⟩ := Outcome.mapError_eq_error.mp failed
        have length : (given.values compiled.parameterNames).length = compiled.slots.length := by
          simpa [Compiled.parameterNames] using congrArg List.length (valued named)
        rw [Compiled.arity?_of_execute length executed] at told
        cases told
      obtain ⟨other, otherFailed, otherTold⟩ :=
        Compiled.executeByName_of_not_namedAs distinct renamed
      rw [failed] at otherFailed
      cases otherFailed
      exact ⟨renamed, Option.some.inj (told.symm.trans otherTold)⟩
    · rintro ⟨renamed, rfl⟩
      exact Compiled.executeByName_of_not_namedAs distinct renamed
  · intro named
    refine ⟨_, valued named, Compiled.executeByName_of_namedAs distinct named, ?_⟩
    intro bound binds name below
    obtain ⟨value, found, seen⟩ := Compiled.environment_of_values compiledAlone (valued named) binds
      (Expression.hasNode_identifier_iff.mp below)
    exact ⟨value, found, by rw [Expression.evaluate, seen]⟩

/-- The slots take their values by name from parameters in another order, where each name of the
expression then has its own value. As many parameters of which one has another name are refused. -/
theorem executeByName_exact_reordered :
    let typed : Parameters :=
      ⟨[("x", .number (.integer 1)), ("z", .null), ("y", .bool true)], by decide⟩
    let given : Parameters :=
      ⟨[("y", .bool true), ("x", .number (.integer 3)), ("z", .string "unused")], by decide⟩
    let renamed : Parameters :=
      ⟨[("y", .bool true), ("x", .number (.integer 3)), ("w", .null)], by decide⟩
    let values : List Value := [.number (.integer 3), .string "unused", .bool true]
    ∃ compiled, compileFor "x > 2 && y" typed = .ok compiled ∧
      given.NamedAs compiled.parameterNames ∧
      compiled.executeByName given = (compiled.execute values).mapError .ofExecution ∧
      (∃ bound, compiled.bind values = .ok bound ∧
        (Expression.identifier "x").evaluate bound.environment = .ok (.number (.integer 3)) ∧
        (Expression.identifier "y").evaluate bound.environment = .ok (.bool true)) ∧
      ∃ failure, compiled.executeByName renamed = .error failure ∧
        failure.arity? = some (3, 3) := by
  intro typed given renamed values
  let root : Expression := .logical .and
    [.comparison .above (.identifier "x") (.literal (.integer 2)), .identifier "y"]
  let compiled : Compiled :=
    ⟨"x > 2 && y", [⟨"x", .int⟩, ⟨"z", .object⟩, ⟨"y", .bool⟩], root, .bool⟩
  have compiles : compileFor "x > 2 && y" typed = .ok compiled := by
    with_unfolding_all rfl
  have named : given.NamedAs compiled.parameterNames :=
    (Parameters.namedAs_iff (by decide)).mpr ⟨rfl, rfl⟩
  have otherwise : ¬ renamed.NamedAs compiled.parameterNames :=
    fun same => absurd ((same "z").mpr (by decide)) (by decide)
  obtain ⟨-, placed, -⟩ := executeByName_exact compiles given
  obtain ⟨found, valued, ran, seen⟩ := placed named
  obtain rfl : found = values := (List.map_inj_right fun _ _ => Option.some.inj).mp valued
  have binds : compiled.bind values = .ok ⟨compiled, values⟩ := rfl
  obtain ⟨left, leftFound, leftSeen⟩ :=
    seen _ binds "x" (.operand (List.mem_cons_self ..) (.left (.root _)))
  obtain ⟨right, rightFound, rightSeen⟩ :=
    seen _ binds "y" (.operand (List.mem_cons_of_mem _ (List.mem_cons_self ..)) (.root _))
  cases leftFound
  cases rightFound
  obtain ⟨refused, -, -⟩ := executeByName_exact compiles renamed
  exact ⟨compiled, compiles, named, ran, ⟨_, binds, leftSeen, rightSeen⟩,
    (refused (3, 3)).mpr ⟨otherwise, rfl⟩⟩

end Predicates
