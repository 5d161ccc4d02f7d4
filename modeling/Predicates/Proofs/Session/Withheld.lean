/-
This file shows that a text still compiles when values of its parameters are withheld.
-/

import Predicates.Proofs.Expression.Weakening
import Predicates.Proofs.Session.Transparency

namespace Predicates

namespace Parameters

variable {parameters fewer : Parameters}

/-- Each value is kept, replaced by null, or dropped together with its parameter. -/
def Withholds (fewer parameters : Parameters) : Prop :=
  ∀ name, fewer.value? name = parameters.value? name ∨ fewer.value? name = some .null ∨
    fewer.value? name = none

/-- A value that is withheld leaves an object, whether it was replaced or dropped. -/
theorem Withholds.weakenTo (withholds : fewer.Withholds parameters) (names : List String) :
    Slot.WeakenTo (parameters.restrict names).slots (fewer.restrict names).slots := by
  intro name kind slotted
  rw [kindOf?_slots, value?_restrict] at slotted ⊢
  by_cases member : name ∈ names
  · rw [if_pos member] at slotted ⊢
    cases slotted
    refine ⟨_, rfl, ?_⟩
    rcases withholds name with same | null | dropped
    · rw [same]
      exact .refl _
    · rw [null]
      exact Or.inr rfl
    · rw [dropped]
      exact Or.inr rfl
  · rw [if_neg member] at slotted
    cases slotted

end Parameters

namespace Failure

/-- The failure is found before any value is bound. -/
def precedesExecution : Failure → Bool
  | .setting _ => true
  | .source _ => true
  | .typing _ => true
  | _ => false

theorem precedesExecution_ofCompile (error : CompileError) :
    (ofCompile error).precedesExecution = true := by
  cases error <;> rfl

theorem precedesExecution_ofExecution (error : ExecutionError) :
    (ofExecution error).precedesExecution = false := by
  cases error <;> rfl

end Failure

namespace Session

variable {session : Session} {text : String} {parameters : Parameters}

/-- The names of a text cannot be found for a setting or for the text itself. -/
theorem Faithful.precedesExecution_of_detect (faithful : session.Faithful) {failure : Failure}
    (failed : (session.detect text).1 = .error failure) : failure.precedesExecution = true := by
  rw [faithful.detect_eq_readiness] at failed
  rcases Outcome.bind_eq_error.mp failed with unready | ⟨-, -, unread⟩
  · obtain ⟨error, -, rfl⟩ := Outcome.mapError_eq_error.mp unready
    rfl
  · obtain ⟨error, -, rfl⟩ := Outcome.mapError_eq_error.mp unread
    rfl

/-- An evaluation gets past the compilation when its names are found and compile with the kinds of
their values. -/
theorem Faithful.getsPast_iff (faithful : session.Faithful) :
    (∀ failure, (session.evaluate text parameters).1 = .error failure →
        failure.precedesExecution = false) ↔
      ∃ names compiled, (session.detect text).1 = .ok names ∧
        compileFor text (parameters.restrict names) = .ok compiled := by
  rw [evaluate_eq_bind]
  constructor
  · intro getsPast
    cases detected : (session.detect text).1 with
    | error failure =>
        have late := getsPast failure (Outcome.bind_eq_error.mpr (Or.inl detected))
        rw [faithful.precedesExecution_of_detect detected] at late
        cases late
    | ok names =>
        cases compiles : compileFor text (parameters.restrict names) with
        | ok compiled => exact ⟨names, compiled, rfl, compiles⟩
        | error failure =>
            have late := getsPast failure (Outcome.bind_eq_error.mpr
              (Or.inr ⟨names, detected, Outcome.bind_eq_error.mpr (Or.inl compiles)⟩))
            obtain ⟨error, -, rfl⟩ := Outcome.mapError_eq_error.mp compiles
            rw [Failure.precedesExecution_ofCompile] at late
            cases late
  · rintro ⟨names, compiled, detected, compiles⟩ failure failed
    rcases Outcome.bind_eq_error.mp failed with undetected | ⟨found, same, failed⟩
    · rw [detected] at undetected
      cases undetected
    · obtain rfl : names = found := Except.ok.inj (detected.symm.trans same)
      rcases Outcome.bind_eq_error.mp failed with refused | ⟨other, -, executionFailed⟩
      · rw [compiles] at refused
        cases refused
      · obtain ⟨error, -, rfl⟩ := Outcome.mapError_eq_error.mp executionFailed
        exact Failure.precedesExecution_ofExecution error

end Session

open Session (start)

/-- A text that compiles does so again when kinds become objects, when slots are added and when
they change places, and each of its nodes keeps its kind or becomes an object. So an evaluation
that gets past the compilation gets past it when values are withheld, whatever was requested before
each of them. -/
theorem compiles_with_less_known (before later : List Session.Request) (text : String) :
    (∀ slots weaker compiled, compile text slots = .ok compiled → Slot.Weakening slots weaker →
      ∃ other, compile text weaker = .ok other ∧ other.root = compiled.root ∧
        ∀ node, compiled.root.HasNode node → ∃ kind weakerKind, node.check slots = .ok kind ∧
          node.check weaker = .ok weakerKind ∧ (weakerKind = kind ∨ weakerKind = .object)) ∧
    ∀ parameters fewer, (start.after before).readiness = (start.after later).readiness →
      Parameters.Withholds fewer parameters →
      (∀ failure, ((start.after before).evaluate text parameters).1 = .error failure →
        failure.precedesExecution = false) →
      ∀ failure, ((start.after later).evaluate text fewer).1 = .error failure →
        failure.precedesExecution = false := by
  constructor
  · intro slots weaker compiled compiles weakening
    obtain ⟨other, again, sameRoot⟩ := compile_of_weakenTo weakening.weakenTo compiles
    exact ⟨other, again, sameRoot, fun node => nodes_of_weakenTo weakening.weakenTo compiles⟩
  · intro parameters fewer alike withholds getsPast
    have faithful : (start.after before).Faithful := Session.faithful_start.after before
    have laterFaithful : (start.after later).Faithful := Session.faithful_start.after later
    obtain ⟨names, compiled, detected, compiles⟩ := faithful.getsPast_iff.mp getsPast
    rw [faithful.detect_eq_readiness, alike, ← laterFaithful.detect_eq_readiness] at detected
    obtain ⟨other, again, -⟩ := compile_of_weakenTo (withholds.weakenTo names)
      (Outcome.mapError_eq_ok.mp compiles)
    exact laterFaithful.getsPast_iff.mpr ⟨names, other, detected, Outcome.mapError_eq_ok.mpr again⟩

/-- An integer becomes an object, its slot changes places and another one is added. Where one value
is dropped and the other is null, the conjunction fails only when it meets the null. -/
theorem compiles_with_less_known_conjunction :
    let slots : List Slot := [⟨"x", .int⟩, ⟨"y", .bool⟩]
    let weaker : List Slot := [⟨"y", .bool⟩, ⟨"z", .string⟩, ⟨"x", .object⟩]
    let parameters : Parameters :=
      ⟨[("x", .number (.integer 3)), ("y", .bool false)], by decide⟩
    let fewer : Parameters := ⟨[("y", .null)], by decide⟩
    Slot.Weakening slots weaker ∧ fewer.Withholds parameters ∧
      (∃ compiled other, compile "y && -x < 2" slots = .ok compiled ∧
        compile "y && -x < 2" weaker = .ok other ∧ other.root = compiled.root) ∧
      (start.evaluate "y && -x < 2" parameters).1 = .ok false ∧
      ∀ failure, ((start.after [.configure (some 1)]).evaluate "y && -x < 2" fewer).1 =
        .error failure → failure.precedesExecution = false := by
  intro slots weaker parameters fewer
  obtain ⟨signatures, calls⟩ :=
    compiles_with_less_known [] [.configure (some 1)] "y && -x < 2"
  have weakening : Slot.Weakening slots weaker := by
    refine ⟨by decide, [⟨"x", .object⟩, ⟨"y", .bool⟩], [⟨"z", .string⟩], ?_, by decide⟩
    exact .cons ⟨rfl, Or.inr rfl⟩ (.cons ⟨rfl, Or.inl rfl⟩ .nil)
  have withholds : fewer.Withholds parameters := by
    intro name
    by_cases named : name = "y"
    · subst named
      exact Or.inr (Or.inl rfl)
    · refine Or.inr (Or.inr ?_)
      simp [fewer, Parameters.value?, Keyed.find?, Ne.symm named]
  have compiles : ∃ compiled, compile "y && -x < 2" slots = .ok compiled := by
    exact ⟨_, by with_unfolding_all rfl⟩
  have evaluated : (start.evaluate "y && -x < 2" parameters).1 = .ok false := by
    with_unfolding_all rfl
  obtain ⟨compiled, compiles⟩ := compiles
  obtain ⟨other, again, sameRoot, -⟩ := signatures slots weaker compiled compiles weakening
  refine ⟨weakening, withholds, ⟨compiled, other, compiles, again, sameRoot⟩, evaluated,
    calls parameters fewer rfl withholds ?_⟩
  intro failure failed
  change (start.evaluate "y && -x < 2" parameters).1 = .error failure at failed
  rw [evaluated] at failed
  cases failed

end Predicates
