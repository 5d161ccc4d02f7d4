/-
This file shows that a lexeme and the text behind it make up the text they were taken from.
-/

import Predicates.Expression.Lexeme

namespace Predicates

namespace Lexeme

theorem run?_append {belongs : Char → Bool} {text : List Char} {split : Split}
    (found : run? belongs text = some split) : split.1 ++ split.2 = text ∧ split.1 ≠ [] := by
  unfold run? at found
  split at found
  · simp at found
  · rename_i nonempty
    cases found
    exact ⟨List.takeWhile_append_dropWhile, nonempty⟩

theorem fixed?_append {spelling text : List Char} {split : Split}
    (found : fixed? spelling text = some split) :
    split.1 = spelling ∧ split.1 ++ split.2 = text := by
  induction spelling generalizing text split with
  | nil => cases found; simp
  | cons expected spelling inductionHypothesis =>
    cases text with
    | nil => simp [fixed?] at found
    | cons character text =>
      simp only [fixed?] at found
      split at found
      · rename_i same
        obtain ⟨inner, foundInner, rfl⟩ := Option.map_eq_some_iff.mp found
        have tail := inductionHypothesis foundInner
        exact ⟨by rw [tail.1, same], by rw [← tail.2]; rfl⟩
      · simp at found

theorem fraction?_append {text : List Char} {split : Split}
    (found : fraction? text = some split) : split.1 ++ split.2 = text ∧ split.1 ≠ [] := by
  unfold fraction? at found
  split at found
  · rename_i whole point afterPoint foundWhole
    split at found
    · obtain ⟨inner, foundInner, rfl⟩ := Option.map_eq_some_iff.mp found
      have left := run?_append foundWhole
      have right := run?_append foundInner
      simp only at left right ⊢
      refine ⟨?_, by simp⟩
      rw [← left.1, ← right.1]
      simp
    · simp at found
  · simp at found

theorem quotedBody?_append {mark : Char} {text : List Char} {split : Split}
    (found : quotedBody? mark text = some split) : split.1 ++ mark :: split.2 = text := by
  fun_induction quotedBody? mark text generalizing split with
  | case1 => simp at found
  | case2 =>
    cases found
    simp
  | case3 => simp at found
  | case4 => simp at found
  | case5 escaped rest _ _ inductionHypothesis =>
    obtain ⟨inner, foundInner, rfl⟩ := Option.map_eq_some_iff.mp found
    simp [inductionHypothesis foundInner]
  | case6 character text _ _ inductionHypothesis =>
    obtain ⟨inner, foundInner, rfl⟩ := Option.map_eq_some_iff.mp found
    simp [inductionHypothesis foundInner]

theorem quoted?_append {mark : Char} {text : List Char} {split : Split}
    (found : quoted? mark text = some split) : split.1 ++ split.2 = text ∧ split.1 ≠ [] := by
  cases text with
  | nil => simp [quoted?] at found
  | cons character text =>
    simp only [quoted?] at found
    split at found
    · rename_i same
      obtain ⟨inner, foundInner, rfl⟩ := Option.map_eq_some_iff.mp found
      simp [quotedBody?_append foundInner, same]
    · simp at found

theorem word?_append {text : List Char} {split : Split}
    (found : word? text = some split) : split.1 ++ split.2 = text ∧ split.1 ≠ [] := by
  cases text with
  | nil => simp [word?] at found
  | cons character text =>
    simp only [word?] at found
    split at found
    · cases found
      simp
    · simp at found

end Lexeme

theorem TokenClass.take?_append {tokenClass : TokenClass} {text : List Char}
    {split : Lexeme.Split} (found : tokenClass.take? text = some split) :
    split.1 ++ split.2 = text ∧ split.1 ≠ [] := by
  cases tokenClass with
  | fixed first others form =>
    have taken := Lexeme.fixed?_append found
    exact ⟨taken.2, by simp [taken.1]⟩
  | fraction => exact Lexeme.fraction?_append found
  | whole => exact Lexeme.run?_append found
  | quoted mark => exact Lexeme.quoted?_append found
  | word => exact Lexeme.word?_append found

namespace LexemeClass

theorem take?_append {lexemeClass : LexemeClass} {text : List Char} {split : Lexeme.Split}
    (found : lexemeClass.take? text = some split) :
    split.1 ++ split.2 = text ∧ split.1 ≠ [] := by
  cases lexemeClass with
  | blank => exact Lexeme.run?_append found
  | token tokenClass => exact TokenClass.take?_append found

theorem take?_of_first? {text : List Char} {lexemeClass : LexemeClass} {split : Lexeme.Split}
    (found : first? text = some (lexemeClass, split)) :
    lexemeClass.take? text = some split := by
  obtain ⟨candidate, _, taken⟩ := List.exists_of_findSome?_eq_some found
  obtain ⟨inner, foundInner, same⟩ := Option.map_eq_some_iff.mp taken
  cases same
  exact foundInner

theorem mem_all_of_first? {text : List Char} {lexemeClass : LexemeClass} {split : Lexeme.Split}
    (found : first? text = some (lexemeClass, split)) : lexemeClass ∈ all := by
  obtain ⟨candidate, known, taken⟩ := List.exists_of_findSome?_eq_some found
  obtain ⟨inner, _, same⟩ := Option.map_eq_some_iff.mp taken
  cases same
  exact known

/-- A lexeme is never empty, so the text behind it is shorter. -/
theorem first?_shorter {text : List Char} {lexemeClass : LexemeClass} {split : Lexeme.Split}
    (found : first? text = some (lexemeClass, split)) : split.2.length < text.length := by
  obtain ⟨joined, nonempty⟩ := take?_append (take?_of_first? found)
  rw [← joined, List.length_append]
  have := List.length_pos_iff.mpr nonempty
  omega

end LexemeClass

end Predicates
