/-
This file shows that pieces without the separator are found again in their joined text.
-/

import Predicates.Text.Pieces

namespace Predicates

variable {separator : Char} {piece rest text : List Char} {pieces : List (List Char)}

theorem cutAt_of_free (free : separator ∉ piece) : cutAt separator piece = [piece] := by
  induction piece with
  | nil => rfl
  | cons character piece inductionHypothesis =>
      rw [List.mem_cons, not_or] at free
      rw [cutAt, if_neg (Ne.symm free.1), inductionHypothesis free.2]

theorem cutAt_append (free : separator ∉ piece) :
    cutAt separator (piece ++ separator :: rest) = piece :: cutAt separator rest := by
  induction piece with
  | nil => rw [List.nil_append, cutAt, if_pos rfl]
  | cons character piece inductionHypothesis =>
      rw [List.mem_cons, not_or] at free
      rw [List.cons_append, cutAt, if_neg (Ne.symm free.1), inductionHypothesis free.2]

/-- Joined pieces are found again. -/
theorem cutAt_intercalate (free : ∀ piece ∈ pieces, separator ∉ piece) (several : pieces ≠ []) :
    cutAt separator ([separator].intercalate pieces) = pieces := by
  induction pieces with
  | nil => exact absurd rfl several
  | cons piece pieces inductionHypothesis =>
      rw [List.forall_mem_cons] at free
      cases pieces with
      | nil =>
          rw [List.intercalate_singleton]
          exact cutAt_of_free free.1
      | cons second others =>
          rw [List.intercalate_cons_cons, List.append_assoc, List.singleton_append,
            cutAt_append free.1, inductionHypothesis free.2 (List.cons_ne_nil second others)]

theorem notMem_of_cutAt (member : piece ∈ cutAt separator text) : separator ∉ piece := by
  induction text generalizing piece with
  | nil =>
      rw [List.mem_singleton.mp member]
      exact List.not_mem_nil
  | cons character rest inductionHypothesis =>
      rw [cutAt] at member
      split at member
      · rcases List.mem_cons.mp member with rfl | behind
        · exact List.not_mem_nil
        · exact inductionHypothesis behind
      · rename_i other
        split at member
        · rw [List.mem_singleton.mp member, List.mem_singleton]
          exact Ne.symm other
        · rename_i first others cut
          rw [cut] at inductionHypothesis
          rcases List.mem_cons.mp member with rfl | behind
          · rw [List.mem_cons, not_or]
            exact ⟨Ne.symm other, inductionHypothesis List.mem_cons_self⟩
          · exact inductionHypothesis (List.mem_cons_of_mem first behind)

end Predicates
