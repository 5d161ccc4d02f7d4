/-
This file shows that paths are read back from their texts.
-/

import Predicates.Proofs.Text.Pieces
import Predicates.Rules.FilePath

namespace Predicates

/-- The start is found before a name, which begins with another character than a stroke. -/
theorem PathStart.ofText_append (start : PathStart) {character : Char} (other : character ≠ '/')
    (rest : List Char) : ofText (start.text.toList ++ character :: rest) = start := by
  cases start <;> simp [ofText, text, other]

/-- The strokes of the start are cut into empty pieces. -/
theorem PathStart.exists_cutAt (start : PathStart) (rest : List Char) :
    ∃ count, cutAt '/' (start.text.toList ++ rest) = List.replicate count [] ++ cutAt '/' rest := by
  cases start with
  | here => exact ⟨0, rfl⟩
  | root => exact ⟨1, rfl⟩
  | otherRoot => exact ⟨2, rfl⟩

namespace FilePath

variable {path : FilePath}

/-- The names of a plain path lead somewhere and stand between the strokes. -/
def IsPlain (path : FilePath) : Prop :=
  ∀ name ∈ path.names, name ≠ "" ∧ name ≠ "." ∧ '/' ∉ name.toList

theorem isPlain_ofText (text : String) : (ofText text).IsPlain := by
  intro name member
  obtain ⟨cut, leads⟩ := List.mem_filter.mp member
  obtain ⟨piece, found, rfl⟩ := List.mem_map.mp cut
  rw [Bool.and_eq_true, decide_eq_true_eq, decide_eq_true_eq] at leads
  rw [String.toList_ofList]
  exact ⟨leads.1, leads.2, notMem_of_cutAt found⟩

/-- The text of the names is cut at the strokes that join them. -/
theorem IsPlain.cutAt_names (plain : path.IsPlain) (several : path.names ≠ []) :
    cutAt '/' (String.intercalate "/" path.names).toList = path.names.map String.toList := by
  have free : ∀ piece ∈ path.names.map String.toList, '/' ∉ piece := by
    intro piece member
    obtain ⟨name, found, rfl⟩ := List.mem_map.mp member
    exact (plain name found).2.2
  rw [String.toList_intercalate]
  exact cutAt_intercalate free (by simpa using several)

/-- No name is dropped. -/
theorem IsPlain.filter_names (plain : path.IsPlain) :
    path.names.filter (fun name => name ≠ "" && name ≠ ".") = path.names := by
  apply List.filter_eq_self.mpr
  intro name member
  obtain ⟨full, other, -⟩ := plain name member
  simp [full, other]

/-- The start is found before the names. -/
theorem IsPlain.ofText_start (plain : path.IsPlain) (several : path.names ≠ []) :
    PathStart.ofText (path.start.text.toList ++ (String.intercalate "/" path.names).toList) =
      path.start := by
  have cut := plain.cutAt_names several
  have full : [] ∉ path.names.map String.toList := by
    intro member
    obtain ⟨name, found, empty⟩ := List.mem_map.mp member
    exact (plain name found).1 (String.toList_eq_nil_iff.mp empty)
  -- A joined text that is empty or begins with a stroke would have an empty first piece.
  cases joined : (String.intercalate "/" path.names).toList with
  | nil =>
      rw [joined, cutAt] at cut
      exact absurd (cut ▸ List.mem_singleton_self []) full
  | cons character rest =>
      refine path.start.ofText_append ?_ rest
      rintro rfl
      rw [joined, cutAt, if_pos rfl] at cut
      exact absurd (cut ▸ List.mem_cons_self) full

/-- A plain path is read back from its text. -/
theorem IsPlain.ofText_text (plain : path.IsPlain) : ofText path.text = path := by
  by_cases several : path.names = []
  · obtain ⟨start, names⟩ := path
    subst several
    cases start <;> decide
  · have inside : path ≠ ⟨.here, []⟩ := by
      rintro rfl
      exact several rfl
    have back : (path.names.map String.toList).map String.ofList = path.names := by
      rw [List.map_map]
      exact (List.map_congr_left fun name _ => String.ofList_toList).trans (List.map_id _)
    obtain ⟨count, pieces⟩ := path.start.exists_cutAt (String.intercalate "/" path.names).toList
    unfold ofText text
    simp only [if_neg inside, String.toList_append, pieces, plain.ofText_start several,
      plain.cutAt_names several, List.map_append, back, List.filter_append, plain.filter_names,
      List.map_replicate]
    simp

end FilePath

end Predicates
