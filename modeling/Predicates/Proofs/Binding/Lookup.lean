/-
This file shows that slots made from parameters give each name the kind and the value of its own
parameter.
-/

import Predicates.Parameters
import Predicates.Proofs.Outcome

namespace Predicates

namespace Keyed

variable {A K : Type} [DecidableEq K] {key : A → K} {item : A} {wanted : K}

theorem find?_putInto (items : List A) :
    (putInto key item items).find? (fun other => key other = wanted) =
      if key item = wanted then some item else items.find? fun other => key other = wanted := by
  induction items with
  | nil => by_cases same : key item = wanted <;> simp [putInto, same]
  | cons old rest inductionHypothesis =>
      by_cases replaced : key old = key item
      · by_cases same : key item = wanted <;> simp [putInto, replaced, same]
      · rw [putInto, if_neg replaced]
        by_cases same : key old = wanted
        · have other : key item ≠ wanted := fun equal => replaced (same.trans equal.symm)
          simp [same, other]
        · simp only [List.find?_cons, same, decide_false, inductionHypothesis]

/-- An item that is put brings no other items with it. -/
theorem mem_putInto {other : A} {items : List A} (member : other ∈ putInto key item items) :
    other = item ∨ other ∈ items := by
  induction items with
  | nil => exact Or.inl (List.mem_singleton.mp member)
  | cons first rest inductionHypothesis =>
      rw [putInto] at member
      split at member
      · exact (List.mem_cons.mp member).imp_right (List.mem_cons_of_mem first)
      · rcases List.mem_cons.mp member with rfl | behind
        · exact Or.inr List.mem_cons_self
        · exact (inductionHypothesis behind).imp_right (List.mem_cons_of_mem first)

/-- The item that was put last is found under its key. -/
theorem find?_put (keyed : Keyed key) :
    (keyed.put item).find? wanted =
      if key item = wanted then some item else keyed.find? wanted :=
  find?_putInto keyed.items

/-- Items with distinct keys are found under their own keys. -/
theorem find?_of_mem (keyed : Keyed key) (member : item ∈ keyed.items) :
    keyed.find? (key item) = some item := by
  obtain ⟨before, after, split⟩ := List.append_of_mem member
  have distinct := keyed.distinct
  unfold find?
  rw [split] at distinct ⊢
  rw [List.find?_append, List.find?_eq_none.mpr, Option.none_or, List.find?_cons_of_pos (by simp)]
  intro other found
  simp only [decide_eq_true_eq]
  intro same
  rw [List.map_append, List.map_cons] at distinct
  exact (List.nodup_append.mp distinct).2.2 (key other) (List.mem_map_of_mem found) (key item)
    List.mem_cons_self same

end Keyed

/-- A name stands in some slot when it has a position. -/
theorem Slot.position?_eq_none {name : String} {slots : List Slot} :
    Slot.position? name slots = none ↔ name ∉ slots.map Slot.name := by
  induction slots with
  | nil => simp [Slot.position?]
  | cons slot rest inductionHypothesis =>
      rw [Slot.position?, List.map_cons, List.mem_cons, not_or]
      cases found : Slot.position? name rest with
      | some position =>
          have member : ¬ name ∉ rest.map Slot.name := fun absent => by
            rw [inductionHypothesis.mpr absent] at found
            cases found
          simp only [reduceCtorEq, member, and_false]
      | none =>
          have absent := inductionHypothesis.mp found
          by_cases same : slot.name = name
          · simp [same]
          · simp [absent, same, Ne.symm same]

namespace Parameters

variable {parameters : Parameters} {name : String} {names : List String} {value : Value}

/-- Where names are distinct, the position of a name finds what belongs to its parameter. -/
theorem position?_bind {A : Type} (name : String) (f : String × Value → A)
    (items : List (String × Value)) (distinct : (items.map Prod.fst).Nodup)
    (slotOf : String × Value → Slot) (named : ∀ item, (slotOf item).name = item.1) :
    ((Slot.position? name (items.map slotOf)).bind fun position => (items.map f)[position]?) =
      (items.find? fun item => item.1 = name).map f := by
  induction items with
  | nil => rfl
  | cons item rest inductionHypothesis =>
      rw [List.map_cons, List.nodup_cons] at distinct
      have restFinds := inductionHypothesis distinct.2
      simp only [List.map_cons, Slot.position?, named]
      by_cases same : item.1 = name
      · have absent : Slot.position? name (rest.map slotOf) = none := by
          rw [Slot.position?_eq_none, List.map_map]
          simpa [Function.comp_def, named, same] using distinct.1
        simp [absent, same]
      · rw [List.find?_cons_of_neg (by simpa using same), ← restFinds]
        cases Slot.position? name (rest.map slotOf) <;> simp [same]

theorem value?_eq_find? (parameters : Parameters) (name : String) :
    parameters.value? name = (parameters.items.find? fun item => item.1 = name).map Prod.snd :=
  rfl

/-- A slot declares the kind of the value under its name. -/
theorem kindOf?_slots (parameters : Parameters) (name : String) :
    Slot.kindOf? parameters.slots name = (parameters.value? name).map Value.declaredKind := by
  have finds := position?_bind name (fun item => item.2.declaredKind) parameters.items
    parameters.distinct (fun item => ⟨item.1, item.2.declaredKind⟩) fun _ => rfl
  rw [value?_eq_find?, Option.map_map]
  refine Eq.trans ?_ finds
  simp only [Slot.kindOf?, slots, List.getElem?_map, Option.map_map, Function.comp_def]

/-- The values that are listed in the order of the slots are seen under their own names. -/
theorem environment_items {compiled : Compiled} (same : compiled.slots = parameters.slots) :
    Bound.environment ⟨compiled, parameters.items.map Prod.snd⟩ = parameters.value? := by
  funext name
  have finds := position?_bind name Prod.snd parameters.items parameters.distinct
    (fun item => ⟨item.1, item.2.declaredKind⟩) fun _ => rfl
  rw [value?_eq_find?, ← finds, Bound.environment, same]
  rfl

theorem value?_of_mem {item : String × Value} (member : item ∈ parameters.items) :
    parameters.value? item.1 = some item.2 := by
  have found : parameters.find? item.1 = some item := Keyed.find?_of_mem parameters member
  rw [value?, found]
  rfl

/-- A name has the value that stands beside it. -/
theorem value?_eq_some : parameters.value? name = some value ↔ (name, value) ∈ parameters.items := by
  constructor
  · intro found
    obtain ⟨item, first, rfl⟩ := Option.map_eq_some_iff.mp found
    have named : item.1 = name := by simpa using List.find?_some first
    rw [← named]
    exact List.mem_of_find?_eq_some first
  · exact fun member => value?_of_mem member

theorem value?_isSome_iff : (parameters.value? name).isSome = true ↔ name ∈ parameters.keys := by
  rw [Option.isSome_iff_exists]
  constructor
  · rintro ⟨value, found⟩
    exact List.mem_map_of_mem (value?_eq_some.mp found)
  · intro member
    obtain ⟨item, found, rfl⟩ := List.mem_map.mp member
    exact ⟨item.2, value?_of_mem found⟩

theorem missing_eq_nil :
    parameters.missing names = [] ↔ ∀ name ∈ names, name ∈ parameters.keys := by
  unfold missing
  rw [List.filter_eq_nil_iff]
  refine forall₂_congr fun name member => ?_
  rw [← value?_isSome_iff, Bool.not_eq_true, Option.isNone_eq_false_iff]

/-- No parameter is missing among the parameters themselves. -/
theorem missing_names (parameters : Parameters) :
    parameters.missing (parameters.items.map Prod.fst) = [] :=
  missing_eq_nil.mpr fun _ member => member

theorem values_names (parameters : Parameters) :
    parameters.values (parameters.items.map Prod.fst) = parameters.items.map Prod.snd := by
  have finds : ∀ items : List (String × Value), (∀ item ∈ items, item ∈ parameters.items) →
      (items.map Prod.fst).filterMap parameters.value? = items.map Prod.snd := by
    intro items
    induction items with
    | nil =>
        intro members
        rfl
    | cons item rest inductionHypothesis =>
        intro members
        rw [List.map_cons,
          List.filterMap_cons_some (value?_of_mem (members item List.mem_cons_self)),
          inductionHypothesis fun other found => members other (List.mem_cons_of_mem item found),
          List.map_cons]
  exact finds parameters.items fun _ member => member

/-- A restriction binds the wanted names only, and a name without a parameter to null. -/
theorem value?_restrict (parameters : Parameters) (names : List String) :
    (parameters.restrict names).value? name =
      if name ∈ names then some ((parameters.value? name).getD .null) else none := by
  -- The parameters that were put before may be any, since the fold starts from what is there.
  have folds : ∀ start : Parameters,
      Parameters.value? ((names.map fun wanted =>
        (wanted, (parameters.value? wanted).getD .null)).foldl Keyed.put start) name =
      if name ∈ names then some ((parameters.value? name).getD .null) else start.value? name := by
    induction names with
    | nil =>
        intro start
        simp
    | cons first rest inductionHypothesis =>
        intro start
        rw [List.map_cons, List.foldl_cons, inductionHypothesis]
        by_cases later : name ∈ rest
        · simp [later]
        · by_cases same : first = name
          · simp [later, same, value?, Keyed.find?_put]
          · simp [later, same, Ne.symm same, value?, Keyed.find?_put]
  exact folds .empty

/-- A restriction to names that have parameters keeps their values. -/
theorem value?_restrict_of_contains {names : List String} (member : name ∈ names)
    (found : parameters.contains name = true) :
    (parameters.restrict names).value? name = parameters.value? name := by
  obtain ⟨value, same⟩ := Option.isSome_iff_exists.mp
    (value?_isSome_iff.mpr (List.contains_iff_mem.mp found))
  rw [value?_restrict, if_pos member, same, Option.getD_some]

end Parameters

end Predicates
