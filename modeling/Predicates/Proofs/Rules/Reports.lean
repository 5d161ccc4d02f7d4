/-
This file shows that a validation reports exactly the rules that no parameters can evaluate, because
their texts are malformed.
-/

import Predicates.Proofs.Rules.Override
import Predicates.Proofs.Session.BoundNames
import Predicates.Proofs.Session.Lookups
import Predicates.Rules.Loading

namespace Predicates

/-- A rule has an issue when its text cannot be parsed. -/
def Rule.issue? (rule : Rule) : Option RuleIssue :=
  match parse rule.expression with
  | .ok _ => none
  | .error error => some ⟨rule.name, error.message⟩

theorem Rule.issue?_of_parse {rule : Rule} {error : SourceError}
    (failed : parse rule.expression = .error error) :
    rule.issue? = some ⟨rule.name, error.message⟩ := by
  rw [issue?, failed]

theorem Rule.issue?_eq_none {rule : Rule} :
    rule.issue? = none ↔ ∃ tree, parse rule.expression = .ok tree := by
  unfold issue?
  cases parse rule.expression <;> simp

def RuleFailure.isMalformed : RuleFailure → Bool
  | .unknownRule _ => false
  | .expression failure => failure.isMalformed

/-- A tree that was parsed is not malformed, whatever it lacks. -/
theorem Expression.isMalformed_of_answerOver {root : Expression} {parameters : Parameters}
    {failure : Failure} (failed : root.answerOver parameters = .error failure) :
    failure.isMalformed = false := by
  rcases answerOver_eq_error failed with
    ⟨error, rfl, -⟩ | ⟨kind, -, rfl | ⟨error, rfl, -⟩⟩ <;> rfl

namespace Session

variable {session : Session} {cache : IdentifierCache} {text : String} {parameters : Parameters}

/-- An evaluation fails as its text does. -/
theorem Faithful.evaluate_of_parse (faithful : session.Faithful)
    (demanded : session.demand = .ok cache) {error : SourceError}
    (failed : parse text = .error error) :
    (session.evaluate text parameters).1 = .error (.source error) := by
  rw [faithful.evaluate_eq demanded, evaluateDirectly, detectDirectly_of_parse failed]
  rfl

/-- An evaluation of a text that has a tree does not fail as malformed. -/
theorem Faithful.isMalformed_of_evaluate (faithful : session.Faithful)
    (demanded : session.demand = .ok cache) {root : Expression} (parsed : parse text = .ok root)
    {failure : Failure} (failed : (session.evaluate text parameters).1 = .error failure) :
    failure.isMalformed = false := by
  rcases faithful.evaluate_eq_error failed with unread | ⟨other, -, failed⟩
  · rw [faithful.detect_eq demanded, detectDirectly_of_tree parsed] at unread
    cases unread
  · exact Expression.isMalformed_of_answerOver failed

end Session

namespace RuleSet

variable {set : RuleSet} {rule : Rule} {rules : List Rule} {session : Session}
  {cache : IdentifierCache}

/-- The validation goes through all rules and lists their issues in the same order. -/
theorem validateDirectly_eq_issues (without : ∀ rule ∈ rules, WithoutOverlong rule.expression) :
    validateDirectly rules = .ok (rules.filterMap Rule.issue?) := by
  induction rules with
  | nil => rfl
  | cons rule rest inductionHypothesis =>
      rw [List.forall_mem_cons] at without
      have behind := inductionHypothesis without.2
      cases parsed : parse rule.expression with
      | ok tree =>
          have sound : rule.issue? = none := Rule.issue?_eq_none.mpr ⟨tree, parsed⟩
          rw [validateDirectly_of_names (detectDirectly_of_tree parsed), behind,
            List.filterMap_cons_none sound]
      | error error =>
          have malformed : (Failure.source error).isMalformed = true :=
            (isMalformed_iff parsed).mpr without.1
          rw [validateDirectly_of_failure (detectDirectly_of_parse parsed), if_pos malformed, behind,
            List.filterMap_cons_some (Rule.issue?_of_parse parsed)]
          rfl

/-- The names are distinct, so an issue under the name of a rule is the issue of this rule. -/
theorem reported_iff (member : rule ∈ set.items) :
    (∃ issue ∈ set.items.filterMap Rule.issue?, issue.rule = rule.name) ↔
      ∃ error, parse rule.expression = .error error := by
  constructor
  · rintro ⟨issue, listed, named⟩
    obtain ⟨other, otherMember, found⟩ := List.mem_filterMap.mp listed
    cases parsed : parse other.expression with
    | ok tree =>
        rw [Rule.issue?_eq_none.mpr ⟨tree, parsed⟩] at found
        cases found
    | error error =>
        rw [Rule.issue?_of_parse parsed] at found
        obtain rfl := Option.some.inj found
        change other.name = rule.name at named
        have first : set.find? other.name = some other := Keyed.find?_of_mem set otherMember
        have second : set.find? rule.name = some rule := Keyed.find?_of_mem set member
        rw [named, second] at first
        cases first
        exact ⟨error, parsed⟩
  · rintro ⟨error, failed⟩
    exact ⟨_, List.mem_filterMap.mpr ⟨rule, member, Rule.issue?_of_parse failed⟩, rfl⟩

/-- The rule of this name cannot be evaluated, because its text is malformed. -/
def FailsMalformed (set : RuleSet) (session : Session) (name : String) (parameters : Parameters) :
    Prop :=
  ∃ failure, (set.evaluate session name parameters).1 = .error failure ∧
    failure.isMalformed = true

/-- The text alone decides whether the evaluation of a rule fails as malformed. -/
theorem failsMalformed_iff (faithful : session.Faithful) (demanded : session.demand = .ok cache)
    (member : rule ∈ set.items) (without : WithoutOverlong rule.expression)
    (parameters : Parameters) :
    set.FailsMalformed session rule.name parameters ↔
      ∃ error, parse rule.expression = .error error := by
  have found : set.get rule.name = .ok rule := get_eq_ok.mpr (Keyed.find?_of_mem set member)
  have evaluated : (set.evaluate session rule.name parameters).1 =
      (session.evaluate rule.expression parameters).1.mapError .expression := by
    rw [evaluate, withRule_of_ok found]
  unfold FailsMalformed
  rw [evaluated]
  constructor
  · rintro ⟨failure, failed, malformed⟩
    obtain ⟨old, oldFailed, rfl⟩ := Outcome.mapError_eq_error.mp failed
    cases parsed : parse rule.expression with
    | error error => exact ⟨error, rfl⟩
    | ok root =>
        have wellFormed := faithful.isMalformed_of_evaluate demanded parsed oldFailed
        rw [RuleFailure.isMalformed, wellFormed] at malformed
        cases malformed
  · rintro ⟨error, failed⟩
    refine ⟨.expression (.source error), ?_, (isMalformed_iff failed).mpr without⟩
    rw [faithful.evaluate_of_parse demanded failed]
    rfl

/-- Whatever was called before, a validation of rules without a number of too many digits lists one
issue for each rule whose text cannot be parsed, in the order of the rules and with the message of
the parser, and it changes no rule. Whatever was called before an evaluation, a rule is reported
exactly when its evaluation fails as malformed over all parameters, and an evaluation of any other
rule fails as malformed over none. -/
theorem validation_reports (earlier : List Session.Call) {cache : IdentifierCache}
    (demanded : (Session.start.afterCalls earlier).demand = .ok cache) (set : RuleSet)
    (without : ∀ rule ∈ set.items, WithoutOverlong rule.expression) :
    let session := Session.start.afterCalls earlier
    let issues := set.items.filterMap Rule.issue?
    (set.validate session).1 = .ok issues ∧
    (∀ (Fault Data : Type) (reader : Reader Fault Data) files,
      Workspace.step reader ⟨set, files, session⟩ .validate =
        (.ok (.issues issues), ⟨set, files, (set.validate session).2⟩)) ∧
    ∀ rule ∈ set.items, ∀ (others : List Session.Call) (kept : IdentifierCache),
      (Session.start.afterCalls others).demand = .ok kept →
      let later := Session.start.afterCalls others
      ((∃ issue ∈ issues, issue.rule = rule.name) ↔
        ∀ parameters, set.FailsMalformed later rule.name parameters) ∧
      ((¬ ∃ issue ∈ issues, issue.rule = rule.name) →
        ∀ parameters, ¬ set.FailsMalformed later rule.name parameters) := by
  intro session issues
  have reported : (set.validate session).1 = .ok issues := by
    have faithful : session.Faithful := Session.faithful_start.afterCalls earlier
    rw [validate, validateRules_eq set.items faithful demanded, validateDirectly_eq_issues without]
  refine ⟨reported, ?_, ?_⟩
  · intro Fault Data reader files
    simp only [Workspace.step, Workspace.answer, reported]
    rfl
  · intro rule member others kept laterDemanded later
    have faithful : later.Faithful := Session.faithful_start.afterCalls others
    have malformed : ∀ parameters, set.FailsMalformed later rule.name parameters ↔
        ∃ issue ∈ issues, issue.rule = rule.name := by
      intro parameters
      rw [reported_iff member]
      exact failsMalformed_iff faithful laterDemanded member (without rule member) parameters
    simp only [malformed]
    exact ⟨⟨fun listed _ => listed, fun all => all .empty⟩, fun unlisted _ => unlisted⟩

/-- A cache with room for one text forgets the first rule while it reads the second one, and the
second rule is the one that is reported and cannot be evaluated. -/
theorem validation_reports_bounded :
    let earlier : List Session.Call :=
      [.request (.configure (some 1)), .request (.detect "a")]
    let session := Session.start.afterCalls earlier
    let set : RuleSet := ⟨[⟨"low", "x < 2", ""⟩, ⟨"broken", "1 ==", "draft"⟩], by decide⟩
    (set.validate session).1 = .ok [⟨"broken", "Unexpected end of expression at position 4"⟩] ∧
      (∀ parameters, set.FailsMalformed session "broken" parameters) ∧
      ∀ parameters, ¬ set.FailsMalformed session "low" parameters := by
  intro earlier session set
  have demanded : session.demand = .ok ⟨some 1, [("a", ["a"])], 1⟩ := by
    with_unfolding_all rfl
  have low : ∃ tree, parse "x < 2" = .ok tree := ⟨_, by with_unfolding_all rfl⟩
  have broken : parse "1 ==" = .error (.parse ⟨.unexpectedEnd, ⟨.stop, ⟨4, 1, 5⟩⟩⟩) := by
    with_unfolding_all rfl
  have message : SourceError.message (.parse ⟨.unexpectedEnd, ⟨.stop, ⟨4, 1, 5⟩⟩⟩) =
      "Unexpected end of expression at position 4" := by
    decide +kernel
  have without : ∀ rule ∈ set.items, WithoutOverlong rule.expression := by
    simp [set, parse_cases_iff.mp (Or.inl low), (isMalformed_iff broken).mp rfl]
  have issues : set.items.filterMap Rule.issue? =
      [⟨"broken", "Unexpected end of expression at position 4"⟩] := by
    rw [List.filterMap_cons_none (Rule.issue?_eq_none.mpr low),
      List.filterMap_cons_some (Rule.issue?_of_parse broken), message]
    rfl
  obtain ⟨reported, -, rules⟩ := validation_reports earlier demanded set without
  rw [issues] at reported rules
  refine ⟨reported, ?_, ?_⟩
  · have exact := (rules ⟨"broken", "1 ==", "draft"⟩ (by simp [set]) earlier _ demanded).1
    exact exact.mp ⟨_, List.mem_singleton_self _, rfl⟩
  · exact (rules ⟨"low", "x < 2", ""⟩ (by simp [set]) earlier _ demanded).2 (by simp)

end RuleSet

end Predicates
