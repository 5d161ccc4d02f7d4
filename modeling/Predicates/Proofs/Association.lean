/-
This file finds the entries of lists under their keys.
-/

import Mathlib.Data.List.Basic

namespace Predicates.Association

variable {A B : Type} [BEq A] [LawfulBEq A] {entries : List (A × B)} {key : A} {value : B}

theorem mem_of_lookup (found : entries.lookup key = some value) : (key, value) ∈ entries := by
  obtain ⟨before, after, rfl, -⟩ := List.lookup_eq_some_iff.mp found
  exact List.mem_append_right before List.mem_cons_self

/-- Where keys are distinct, each entry is found under its own key. -/
theorem lookup_of_mem (distinct : (entries.map Prod.fst).Nodup) (member : (key, value) ∈ entries) :
    entries.lookup key = some value := by
  obtain ⟨before, after, rfl⟩ := List.append_of_mem member
  rw [List.map_append, List.map_cons] at distinct
  refine List.lookup_eq_some_iff.mpr ⟨before, after, rfl, fun earlier isEarlier => ?_⟩
  have other := (List.nodup_append.mp distinct).2.2 earlier.1 (List.mem_map_of_mem isEarlier) key
    List.mem_cons_self
  exact bne_iff_ne.mpr other.symm

end Predicates.Association
