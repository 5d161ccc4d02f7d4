/-
This file shows that an evaluation depends only on the parameters that its text refers to.
-/

import Predicates.Proofs.Session.Transparency
import Predicates.Rules.Rule

namespace Predicates

namespace Parameters

/-- Both bind the names to the same values, where a name without a parameter is bound to null. -/
def AgreeOn (first second : Parameters) (names : List String) : Prop :=
  ∀ name ∈ names, (first.value? name).getD .null = (second.value? name).getD .null

/-- Restricted to names on which they agree, parameters are the same and in the same order. -/
theorem AgreeOn.restrict_eq {first second : Parameters} {names : List String}
    (agree : first.AgreeOn second names) : first.restrict names = second.restrict names := by
  unfold restrict
  apply congrArg
  apply List.map_congr_left
  intro name member
  rw [agree name member]

end Parameters

namespace RuleSet

variable {A : Type} {set : RuleSet} {name : String}

theorem withRule_of_error {failure : RuleFailure} (missing : set.get name = .error failure)
    (session : Session) (use : Rule → Except Failure A × Session) :
    set.withRule session name use = (.error failure, session) := by
  rw [withRule, missing]

/-- A known rule is used under its name. -/
theorem withRule_of_ok {rule : Rule} (found : set.get name = .ok rule) (session : Session)
    (use : Rule → Except Failure A × Session) :
    set.withRule session name use = ((use rule).1.mapError .expression, (use rule).2) := by
  rw [withRule, found]

end RuleSet

namespace Session

variable {session other : Session} {first second : Parameters}

/-- Faithful sessions that are ready alike evaluate a text alike over parameters that agree on its
names. -/
theorem Faithful.evaluate_congr (faithful : session.Faithful) (otherFaithful : other.Faithful)
    (alike : session.readiness = other.readiness) {text : String}
    (agree : ∀ names, (session.detect text).1 = .ok names → first.AgreeOn second names) :
    (session.evaluate text first).1 = (other.evaluate text second).1 := by
  have sameNames : (session.detect text).1 = (other.detect text).1 := by
    rw [faithful.detect_eq_readiness, otherFaithful.detect_eq_readiness, alike]
  rw [evaluate_eq_bind, evaluate_eq_bind, ← sameNames]
  cases detected : (session.detect text).1 with
  | error failure => rfl
  | ok names =>
      change evaluateBound text (first.restrict names) = evaluateBound text (second.restrict names)
      rw [(agree names detected).restrict_eq]

/-- Whatever was requested before each of them, two evaluations of a text have the same outcome
when their parameters agree on the names of the text, and so have two evaluations of a rule when
their parameters agree on those that the rule requires. -/
theorem evaluate_eq_of_agree (before later : List Request)
    (alike : (start.after before).readiness = (start.after later).readiness)
    (first second : Parameters) :
    (∀ text,
      (∀ names, ((start.after before).detect text).1 = .ok names → first.AgreeOn second names) →
      ((start.after before).evaluate text first).1 =
        ((start.after later).evaluate text second).1) ∧
    ∀ (set : RuleSet) (name : String),
      (∀ names, (set.requiredParameters (start.after before) name).1 = .ok names →
        first.AgreeOn second names) →
      (set.evaluate (start.after before) name first).1 =
        (set.evaluate (start.after later) name second).1 := by
  have same : ∀ text,
      (∀ names, ((start.after before).detect text).1 = .ok names → first.AgreeOn second names) →
      ((start.after before).evaluate text first).1 = ((start.after later).evaluate text second).1 :=
    fun text => (faithful_start.after before).evaluate_congr (faithful_start.after later) alike
  refine ⟨same, ?_⟩
  intro set name agree
  unfold RuleSet.evaluate
  cases found : set.get name with
  | error failure => rw [RuleSet.withRule_of_error found, RuleSet.withRule_of_error found]
  | ok rule =>
      have sameRule := same rule.expression fun names detected => agree names (by
        rw [RuleSet.requiredParameters, RuleSet.withRule_of_ok found, detected]
        rfl)
      rw [RuleSet.withRule_of_ok found, RuleSet.withRule_of_ok found, sameRule]

/-- A missing parameter agrees with a null one, and parameters that the text does not name may have
any values and stand in any order. The same holds for the rule with this text. -/
theorem evaluate_eq_of_agree_absent :
    let before : List Request := [.configure (some 1), .detect "z"]
    let first : Parameters := ⟨[("z", .string "on"), ("x", .number (.integer 1))], by decide⟩
    let second : Parameters := ⟨[("x", .number (.integer 1)), ("y", .null)], by decide⟩
    let set : RuleSet := ⟨[⟨"low", "y == null && x < 2", ""⟩], by decide⟩
    (start.after before).readiness = (start.after []).readiness ∧
      ((start.after before).detect "y == null && x < 2").1 = .ok ["y", "x"] ∧
      (set.requiredParameters (start.after before) "low").1 = .ok ["y", "x"] ∧
      first.AgreeOn second ["y", "x"] ∧
      ((start.after before).evaluate "y == null && x < 2" first).1 =
        ((start.after []).evaluate "y == null && x < 2" second).1 ∧
      (set.evaluate (start.after before) "low" first).1 =
        (set.evaluate (start.after []) "low" second).1 := by
  intro before first second set
  have alike : (start.after before).readiness = (start.after []).readiness := by
    with_unfolding_all rfl
  have detected : ((start.after before).detect "y == null && x < 2").1 = .ok ["y", "x"] := by
    with_unfolding_all rfl
  have required : (set.requiredParameters (start.after before) "low").1 = .ok ["y", "x"] := by
    with_unfolding_all rfl
  have agree : first.AgreeOn second ["y", "x"] := by
    intro name member
    rcases List.mem_cons.mp member with rfl | member
    · rfl
    · rw [List.mem_singleton.mp member]
      rfl
  obtain ⟨texts, rules⟩ := evaluate_eq_of_agree before [] alike first second
  refine ⟨alike, detected, required, agree, texts _ ?_, rules set "low" ?_⟩
  · intro names found
    rw [detected] at found
    cases found
    exact agree
  · intro names found
    rw [required] at found
    cases found
    exact agree

end Session

end Predicates
