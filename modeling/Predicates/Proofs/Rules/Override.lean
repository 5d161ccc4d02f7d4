/-
This file shows which rules a set holds after rules were added one after the other: the names stand
in the order in which they came first, and each name has the rule that came last.
-/

import Predicates.Proofs.Binding.Lookup
import Predicates.Proofs.Cache.Recency
import Predicates.Rules.Rule

namespace Predicates

namespace Keyed

variable {A : Type} {key : A → String} {keyed : Keyed key} {wanted : String}

/-- The items are put one after the other. -/
def putAll (keyed : Keyed key) (items : List A) : Keyed key :=
  items.foldl put keyed

theorem putAll_append (keyed : Keyed key) (first rest : List A) :
    keyed.putAll (first ++ rest) = (keyed.putAll first).putAll rest :=
  List.foldl_append

theorem keys_put (keyed : Keyed key) (item : A) :
    (keyed.put item).keys =
      if key item ∈ keyed.keys then keyed.keys else keyed.keys ++ [key item] :=
  map_putInto item keyed.items

/-- New keys come behind the old ones, and a key that is there keeps its place. -/
theorem keys_putAll (keyed : Keyed key) (items : List A) :
    (keyed.putAll items).keys = firstSeen (keyed.keys ++ items.map key) := by
  induction items using List.reverseRecOn with
  | nil =>
      rw [List.map_nil, List.append_nil]
      exact (Recency.firstSeen_of_nodup keyed.distinct).symm
  | append_singleton items item inductionHypothesis =>
      have last : keyed.putAll (items ++ [item]) = (keyed.putAll items).put item :=
        putAll_append keyed items [item]
      rw [last, keys_put, inductionHypothesis, List.map_append, ← List.append_assoc,
        List.map_singleton, Recency.firstSeen_append_singleton]
      simp only [Recency.mem_firstSeen]

/-- Distinct keys are found from either end. -/
theorem find?_eq_reverse (keyed : Keyed key) (wanted : String) :
    keyed.find? wanted = keyed.items.reverse.find? fun item => key item = wanted := by
  cases found : keyed.items.reverse.find? fun item => key item = wanted with
  | none =>
      rw [List.find?_eq_none] at found
      exact List.find?_eq_none.mpr fun item member => found item (List.mem_reverse.mpr member)
  | some item =>
      have same : key item = wanted := by simpa using List.find?_some found
      rw [← same]
      exact find?_of_mem keyed (List.mem_reverse.mp (List.mem_of_find?_eq_some found))

/-- A key has the item that was put last. -/
theorem find?_putAll (keyed : Keyed key) (items : List A) :
    (keyed.putAll items).find? wanted =
      (keyed.items ++ items).reverse.find? fun item => key item = wanted := by
  induction items using List.reverseRecOn with
  | nil =>
      rw [List.append_nil]
      exact find?_eq_reverse keyed wanted
  | append_singleton items item inductionHypothesis =>
      have last : keyed.putAll (items ++ [item]) = (keyed.putAll items).put item :=
        putAll_append keyed items [item]
      rw [last, find?_put, inductionHypothesis, ← List.append_assoc, List.reverse_concat,
        List.find?_cons]
      by_cases same : key item = wanted <;> simp [same]

end Keyed

namespace RuleSet

variable {set : RuleSet} {rules : List Rule} {rule : Rule} {name : String}

/-- The set shows the rules that were added. Its names stand in the order in which they came first,
and each name has the rule that came last. -/
structure Shows (set : RuleSet) (rules : List Rule) : Prop where
  names : set.keys = firstSeen (rules.map Rule.name)
  size : set.size = (firstSeen (rules.map Rule.name)).length
  contains : ∀ name, set.contains name = true ↔ name ∈ rules.map Rule.name
  get : ∀ name rule, set.get name = .ok rule ↔
    ∃ before after, rules = before ++ rule :: after ∧ rule.name = name ∧
      ∀ later ∈ after, later.name ≠ name
  unknown : ∀ name, set.get name = .error (.unknownRule name) ↔ name ∉ rules.map Rule.name

theorem get_eq_ok : set.get name = .ok rule ↔ set.find? name = some rule := by
  unfold get
  cases set.find? name <;> simp

theorem get_eq_unknown : set.get name = .error (.unknownRule name) ↔ set.find? name = none := by
  unfold get
  cases set.find? name <;> simp

/-- The last rule of a name is the one that no rule of this name follows. -/
theorem find?_reverse_eq_some :
    (rules.reverse.find? fun rule => rule.name = name) = some rule ↔
      ∃ before after, rules = before ++ rule :: after ∧ rule.name = name ∧
        ∀ later ∈ after, later.name ≠ name := by
  rw [List.find?_eq_some_iff_append]
  constructor
  · rintro ⟨named, after, before, split, others⟩
    refine ⟨before.reverse, after.reverse, ?_, by simpa using named, ?_⟩
    · rw [← List.reverse_reverse rules, split, List.reverse_append, List.reverse_cons,
        List.append_assoc, List.singleton_append]
    · intro later member
      simpa using others later (List.mem_reverse.mp member)
  · rintro ⟨before, after, rfl, named, others⟩
    refine ⟨by simpa using named, after.reverse, before.reverse, ?_, ?_⟩
    · rw [List.reverse_append, List.reverse_cons, List.append_assoc, List.singleton_append]
    · intro later member
      simpa using others later (List.mem_reverse.mp member)

theorem find?_reverse_eq_none :
    (rules.reverse.find? fun rule => rule.name = name) = none ↔ name ∉ rules.map Rule.name := by
  simp [List.find?_eq_none]

/-- Rules that are added one after the other come behind those that the set has. -/
theorem shows_putAll (set : RuleSet) (rules : List Rule) :
    Shows (set.putAll rules) (set.items ++ rules) := by
  have names : (set.putAll rules).keys = firstSeen ((set.items ++ rules).map Rule.name) := by
    rw [Keyed.keys_putAll, List.map_append]
    rfl
  refine ⟨names, ?_, ?_, ?_, ?_⟩
  · rw [← names]
    exact (List.length_map _).symm
  · intro name
    rw [Keyed.contains, names, List.contains_iff_mem, Recency.mem_firstSeen]
  · intro name rule
    rw [get_eq_ok, Keyed.find?_putAll]
    exact find?_reverse_eq_some
  · intro name
    rw [get_eq_unknown, Keyed.find?_putAll]
    exact find?_reverse_eq_none

end RuleSet

end Predicates
