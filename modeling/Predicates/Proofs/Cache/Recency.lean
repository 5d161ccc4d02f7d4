/-
This file orders texts by their first or by their latest use.
-/

import Predicates.Expression.Identifiers
import Mathlib.Data.List.Dedup
import Mathlib.Data.List.DropRight

namespace Predicates.Recency

variable {text : String} {used texts : List String} {limit : Nat}

/-- A text moves behind all others when it is used. -/
def moveLast (texts : List String) (text : String) : List String :=
  texts.filter (· ≠ text) ++ [text]

/-- The latest use decides the place of a text. -/
theorem dedup_append_singleton (used : List String) (text : String) :
    (used ++ [text]).dedup = moveLast used.dedup text := by
  induction used with
  | nil => rfl
  | cons first rest inductionHypothesis =>
      rw [List.cons_append]
      by_cases again : first ∈ rest
      · rw [List.dedup_cons_of_mem (List.mem_append_left [text] again), inductionHypothesis,
          List.dedup_cons_of_mem again]
      · by_cases same : first = text
        · subst same
          rw [List.dedup_cons_of_mem (List.mem_append_right rest (List.mem_singleton_self first)),
            inductionHypothesis, List.dedup_cons_of_notMem again]
          simp [moveLast]
        · have fresh : first ∉ rest ++ [text] := by simp [again, same]
          rw [List.dedup_cons_of_notMem fresh, inductionHypothesis,
            List.dedup_cons_of_notMem again]
          simp [moveLast, same]

theorem mem_firstSeen : text ∈ firstSeen used ↔ text ∈ used := by
  induction used with
  | nil => rfl
  | cons first rest inductionHypothesis =>
      simp only [firstSeen, List.mem_cons, List.mem_filter, inductionHypothesis, decide_eq_true_eq]
      by_cases same : text = first <;> simp [same]

theorem firstSeen_of_nodup (distinct : texts.Nodup) : firstSeen texts = texts := by
  induction texts with
  | nil => rfl
  | cons first rest inductionHypothesis =>
      rw [List.nodup_cons] at distinct
      rw [firstSeen, inductionHypothesis distinct.2, List.filter_eq_self.mpr]
      intro text member
      rw [decide_eq_true_eq]
      rintro rfl
      exact distinct.1 member

/-- A later use does not move a text that was seen before. -/
theorem firstSeen_append_singleton (used : List String) (text : String) :
    firstSeen (used ++ [text]) =
      if text ∈ used then firstSeen used else firstSeen used ++ [text] := by
  induction used with
  | nil => rfl
  | cons first rest inductionHypothesis =>
      simp only [List.cons_append, firstSeen, inductionHypothesis, List.mem_cons]
      by_cases same : text = first
      · subst same
        by_cases again : text ∈ rest <;> simp [again]
      · by_cases again : text ∈ rest <;> simp [again, same]

/-- Nothing but the text itself is lost on the way to the end. -/
theorem length_le_filter (distinct : texts.Nodup) (text : String) :
    texts.length - 1 ≤ (texts.filter (· ≠ text)).length := by
  have erased := texts.le_length_erase (a := text)
  have same : (fun other => other != text) = fun other => decide (other ≠ text) := by
    funext other
    by_cases equal : other = text <;> simp [equal]
  rwa [distinct.erase_eq_filter, same] at erased

theorem rtake_append_of_le (left right : List String) (short : limit ≤ right.length) :
    (left ++ right).rtake limit = right.rtake limit := by
  unfold List.rtake
  rw [List.length_append, List.drop_append]
  have beyond : left.length ≤ left.length + right.length - limit := by omega
  have behind : left.length + right.length - limit - left.length = right.length - limit := by omega
  rw [List.drop_eq_nil_of_le beyond, behind, List.nil_append]

theorem rtake_of_length_le (short : texts.length ≤ limit) : texts.rtake limit = texts := by
  unfold List.rtake
  rw [Nat.sub_eq_zero_of_le short, List.drop_zero]

theorem length_rtake_le : (texts.rtake limit).length ≤ limit := by
  unfold List.rtake
  rw [List.length_drop]
  omega

/-- The oldest texts can be dropped before or after a use. -/
theorem rtake_moveLast (distinct : texts.Nodup) (limit : Nat) (text : String) :
    (moveLast (texts.rtake limit) text).rtake limit = (moveLast texts text).rtake limit := by
  cases limit with
  | zero => rw [List.rtake_zero, List.rtake_zero]
  | succ others =>
      unfold moveLast
      rw [List.rtake_concat_succ, List.rtake_concat_succ]
      congr 1
      by_cases few : texts.length ≤ others + 1
      · rw [rtake_of_length_le few]
      · have split : texts.take (texts.length - (others + 1)) ++ texts.rtake (others + 1) = texts :=
          List.take_append_drop (texts.length - (others + 1)) texts
        have kept : (texts.rtake (others + 1)).length = others + 1 := by
          unfold List.rtake
          rw [List.length_drop]
          omega
        have enough : others ≤ ((texts.rtake (others + 1)).filter (· ≠ text)).length := by
          have keptDistinct : (texts.rtake (others + 1)).Nodup :=
            distinct.sublist (List.drop_sublist _ texts)
          have bound := length_le_filter keptDistinct text
          rwa [kept] at bound
        -- The dropped texts stand before enough others, so no room for them is left.
        conv_rhs => rw [← split, List.filter_append]
        rw [rtake_append_of_le _ _ enough]

theorem moveLast_of_notMem (absent : text ∉ texts) : moveLast texts text = texts ++ [text] := by
  have kept : texts.filter (· ≠ text) = texts := by
    apply List.filter_eq_self.mpr
    intro other member
    simp only [ne_eq, decide_eq_true_eq]
    rintro rfl
    exact absent member
  rw [moveLast, kept]

/-- A text that is already kept needs no room. -/
theorem length_moveLast_of_mem (member : text ∈ texts) :
    (moveLast texts text).length ≤ texts.length := by
  have fewer : (texts.filter (· ≠ text)).length < texts.length := by
    apply List.length_filter_lt_length_iff_exists.mpr
    exact ⟨text, member, by simp⟩
  simp only [moveLast, List.length_append, List.length_singleton]
  omega

end Predicates.Recency
