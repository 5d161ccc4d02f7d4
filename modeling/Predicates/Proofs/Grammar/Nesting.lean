/-
This file shows that the tokens alone decide how deep each of them is nested.
-/

import Predicates.Proofs.Grammar.Derivation

namespace Predicates.Grammar

/-- The depths are counted from the left. The base counts what encloses the present phrase, the
pending operators still wait for their operand, and the outer bases return at the closing
parentheses. -/
def countDepths (base pending : Nat) (outer : List Nat) : List TokenForm → List Nat
  | [] => []
  | .not _ :: rest => (base + pending) :: countDepths base (pending + 1) outer rest
  | .minus :: rest => (base + pending) :: countDepths base (pending + 1) outer rest
  | .opening :: rest =>
      (base + pending) :: countDepths (base + pending + 1) 0 (base :: outer) rest
  | .closing :: rest => (base - 1) :: countDepths (outer.headD 0) 0 outer.tail rest
  | _ :: rest => (base + pending) :: countDepths base 0 outer rest

/-- Operators may only wait for an operand. -/
def Phrase.mayWait : Phrase → Prop
  | .primary _ => True
  | .unary _ => True
  | _ => False

/-- Shifting the depths of nested tokens by one moves them one level out. -/
theorem map_succ_add (depths : List Nat) (base : Nat) :
    (depths.map (· + 1)).map (· + base) = depths.map (· + (base + 1)) := by
  rw [List.map_map]
  apply List.map_congr_left
  intro depth member
  simp only [Function.comp_apply]
  omega

/-- Counting through a phrase gives its depths above the place where it stands, and no operator
waits any longer. -/
theorem Derives.countDepths_append {forms : List TokenForm} {phrase : Phrase} {depths : List Nat}
    (derived : Derives forms phrase depths) :
    ∀ (base pending : Nat) (outer : List Nat) (rest : List TokenForm),
      phrase.mayWait ∨ pending = 0 →
      countDepths base pending outer (forms ++ rest) =
        depths.map (· + (base + pending)) ++ countDepths base 0 outer rest := by
  induction derived with
  | literal value =>
      intro base pending outer rest waits
      simp [countDepths]
  | identifier name =>
      intro base pending outer rest waits
      simp [countDepths]
  | parenthesis inner inductionHypothesis =>
      intro base pending outer rest waits
      have body := inductionHypothesis (base + pending + 1) 0 (base :: outer) (.closing :: rest)
        (Or.inr rfl)
      simp only [List.cons_append, List.append_assoc, List.nil_append, List.map_cons,
        List.map_append, map_succ_add, countDepths, body]
      simp
  | primary only inductionHypothesis =>
      intro base pending outer rest waits
      exact inductionHypothesis base pending outer rest (Or.inl trivial)
  | not spelling inner inductionHypothesis =>
      intro base pending outer rest waits
      have body := inductionHypothesis base (pending + 1) outer rest (Or.inl trivial)
      simp only [List.cons_append, List.map_cons, map_succ_add, countDepths, body, Nat.zero_add,
        Nat.add_assoc]
  | minus inner inductionHypothesis =>
      intro base pending outer rest waits
      have body := inductionHypothesis base (pending + 1) outer rest (Or.inl trivial)
      simp only [List.cons_append, List.map_cons, map_succ_add, countDepths, body, Nat.zero_add,
        Nat.add_assoc]
  | unary only inductionHypothesis =>
      intro base pending outer rest waits
      exact inductionHypothesis base pending outer rest (Or.inl trivial)
  | comparison operator before last beforeHypothesis lastHypothesis =>
      rintro base pending outer rest (waits | rfl)
      · exact absurd waits id
      · rw [List.append_assoc, beforeHypothesis base 0 outer _ (Or.inr rfl)]
        simp only [List.cons_append, countDepths, lastHypothesis base 0 outer rest (Or.inr rfl)]
        simp
  | last only inductionHypothesis =>
      rintro base pending outer rest (waits | rfl)
      · exact absurd waits id
      · exact inductionHypothesis base 0 outer rest (Or.inr rfl)
  | more spelling head tail headHypothesis tailHypothesis =>
      rintro base pending outer rest (waits | rfl)
      · exact absurd waits id
      · rw [List.append_assoc, headHypothesis base 0 outer _ (Or.inr rfl)]
        simp only [List.cons_append, countDepths, tailHypothesis base 0 outer rest (Or.inr rfl)]
        simp
  | single only inductionHypothesis =>
      rintro base pending outer rest (waits | rfl)
      · exact absurd waits id
      · exact inductionHypothesis base 0 outer rest (Or.inr rfl)
  | logical run several inductionHypothesis =>
      rintro base pending outer rest (waits | rfl)
      · exact absurd waits id
      · exact inductionHypothesis base 0 outer rest (Or.inr rfl)

/-- The depths of a phrase are those that are counted. -/
theorem Derives.countDepths_eq {forms : List TokenForm} {phrase : Phrase} {depths : List Nat}
    (derived : Derives forms phrase depths) : countDepths 0 0 [] forms = depths := by
  have counted := derived.countDepths_append 0 0 [] [] (Or.inr rfl)
  simpa [countDepths] using counted

end Predicates.Grammar
