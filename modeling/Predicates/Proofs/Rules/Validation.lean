/-
This file shows that an unreadable text is reported as malformed unless it holds a whole number with
too many digits, and that only such a number ends the validation of a rule set.
-/

import Predicates.Proofs.Lexing.Overlong
import Predicates.Proofs.Session.Transparency
import Predicates.Rules.Rule

namespace Predicates

/-- No whole number that is reached in the text has too many digits. -/
def WithoutOverlong (text : String) : Prop :=
  ∀ digits, ¬ HasOverlong text.toList digits

theorem parse_of_hasOverlong {text : String} {digits : List Char}
    (overlong : HasOverlong text.toList digits) :
    parse text = .error (.scan (.tooManyDigits digits.length)) :=
  parse_eq_tooManyDigits.mpr ⟨digits, overlong, rfl⟩

theorem parse_of_ones {count : Nat} (beyond : digitLimit < count) :
    parse (String.ofList (List.replicate count '1')) = .error (.scan (.tooManyDigits count)) := by
  refine parse_eq_tooManyDigits.mpr ⟨List.replicate count '1', ⟨[], ?_, ?_, ?_⟩, ?_⟩
  · rw [String.toList_ofList, List.append_nil]
    exact .here _
  · refine .of_ends ?_ ?_ (by simp [Lexeme.Ends])
    · rw [List.ne_nil_iff_length_pos, List.length_replicate]
      exact Nat.zero_lt_of_lt beyond
    · intro digit member
      rw [List.eq_of_mem_replicate member]
      decide
  · rw [List.length_replicate]
    exact beyond
  · exact List.length_replicate

/-- A text is malformed when it has no tree and no whole number with too many digits. -/
theorem isMalformed_iff {text : String} {error : SourceError} (failed : parse text = .error error) :
    error.isMalformed = true ↔ WithoutOverlong text := by
  constructor
  · intro malformed digits overlong
    rw [parse_of_hasOverlong overlong] at failed
    cases failed
    cases malformed
  · intro without
    rw [← Bool.not_eq_false]
    intro wellFormed
    obtain ⟨count, rfl⟩ := SourceError.isMalformed_eq_false.mp wellFormed
    obtain ⟨digits, overlong, -⟩ := parse_eq_tooManyDigits.mp failed
    exact without digits overlong

theorem withoutOverlong_of_parse {text : String} {tree : Expression}
    (parsed : parse text = .ok tree) : WithoutOverlong text := by
  intro digits overlong
  rw [parse_of_hasOverlong overlong] at parsed
  cases parsed

/-- A text has a tree or is malformed unless it holds a whole number with too many digits. -/
theorem parse_cases_iff {text : String} :
    ((∃ tree, parse text = .ok tree) ∨
      ∃ error, parse text = .error error ∧ error.isMalformed = true) ↔ WithoutOverlong text := by
  constructor
  · rintro (⟨tree, parsed⟩ | ⟨error, failed, malformed⟩)
    · exact withoutOverlong_of_parse parsed
    · exact (isMalformed_iff failed).mp malformed
  · intro without
    cases parsed : parse text with
    | ok tree => exact Or.inl ⟨tree, rfl⟩
    | error error => exact Or.inr ⟨error, rfl, (isMalformed_iff parsed).mpr without⟩

/-- The names of a text and its compiled form fail as its tree does. -/
theorem source_error_of_parse {text : String} {error : SourceError}
    (failed : parse text = .error error) :
    detectIdentifiers text = .error error ∧
      ∀ slots, compile text slots = .error (.source error) := by
  constructor
  · rw [detectIdentifiers, failed]
    rfl
  · intro slots
    rw [compile, failed]
    rfl

theorem detectDirectly_of_parse {text : String} {error : SourceError}
    (failed : parse text = .error error) : detectDirectly text = .error (.source error) := by
  rw [detectDirectly, (source_error_of_parse failed).1]
  rfl

theorem detectDirectly_of_tree {text : String} {tree : Expression}
    (parsed : parse text = .ok tree) : detectDirectly text = .ok tree.identifiers := by
  rw [detectDirectly, detectIdentifiers, parsed]
  rfl

namespace RuleSet

/-- The rules are validated without a cache. -/
def validateDirectly : List Rule → Except Failure (List RuleIssue)
  | [] => .ok []
  | rule :: rest =>
    match detectDirectly rule.expression with
    | .ok _ => validateDirectly rest
    | .error failure =>
      if failure.isMalformed then
        (validateDirectly rest).map (⟨rule.name, failure.message?.getD ""⟩ :: ·)
      else .error failure

variable {rule : Rule} {rest : List Rule}

theorem validateDirectly_of_names {names : List String}
    (detected : detectDirectly rule.expression = .ok names) :
    validateDirectly (rule :: rest) = validateDirectly rest := by
  rw [validateDirectly, detected]

theorem validateDirectly_of_failure {failure : Failure}
    (detected : detectDirectly rule.expression = .error failure) :
    validateDirectly (rule :: rest) =
      if failure.isMalformed then
        (validateDirectly rest).map (⟨rule.name, failure.message?.getD ""⟩ :: ·)
      else .error failure := by
  rw [validateDirectly, detected]

/-- A number with too many digits ends the validation at its rule. -/
theorem validateDirectly_of_tooManyDigits {count : Nat}
    (failed : parse rule.expression = .error (.scan (.tooManyDigits count))) :
    validateDirectly (rule :: rest) = .error (.source (.scan (.tooManyDigits count))) := by
  rw [validateDirectly_of_failure (detectDirectly_of_parse failed)]
  rfl

/-- What the cache remembers makes no difference to a validation. -/
theorem validateRules_eq (rules : List Rule) {session : Session} {cache : IdentifierCache}
    (faithful : session.Faithful) (demanded : session.demand = .ok cache) :
    (validateRules rules session).1 = validateDirectly rules := by
  induction rules generalizing session cache with
  | nil => rfl
  | cons rule rest inductionHypothesis =>
      have direct := faithful.detect_eq demanded rule.expression
      have behind := inductionHypothesis (faithful.detect rule.expression)
        (Session.demand_detect demanded rule.expression)
      rw [validateRules]
      rcases detected : session.detect rule.expression with ⟨outcome, after⟩
      rw [detected] at direct behind
      cases outcome with
      | ok names =>
          rw [validateDirectly_of_names direct.symm]
          exact behind
      | error failure =>
          rw [validateDirectly_of_failure direct.symm, ← behind]
          dsimp only
          split <;> rfl

/-- A validation lists its issues exactly when no rule holds a whole number with too many
digits. -/
theorem validateDirectly_eq_ok_iff (rules : List Rule) :
    (∃ issues, validateDirectly rules = .ok issues) ↔
      ∀ rule ∈ rules, WithoutOverlong rule.expression := by
  induction rules with
  | nil => simp [validateDirectly]
  | cons rule rest inductionHypothesis =>
      rw [List.forall_mem_cons, ← inductionHypothesis]
      cases parsed : parse rule.expression with
      | ok tree =>
          rw [validateDirectly_of_names (detectDirectly_of_tree parsed)]
          exact (and_iff_right (withoutOverlong_of_parse parsed)).symm
      | error error =>
          rw [validateDirectly_of_failure (detectDirectly_of_parse parsed), ← isMalformed_iff parsed]
          change (∃ issues, (if error.isMalformed = true then
            (validateDirectly rest).map _ else .error (Failure.source error)) = .ok issues) ↔ _
          by_cases malformed : error.isMalformed = true
          · simp only [malformed, if_true, true_and]
            exact Outcome.exists_map_eq_ok
          · simp [malformed]

/-- An unreadable text is malformed, or it holds a whole number with too many digits. The names of
the text and its compiled form fail in the same way, and only such a number ends the validation
of a rule set. -/
theorem malformed_without_overlong (text : String) (set : RuleSet)
    (before : List Session.Request) :
    let session := Session.start.after before
    (((∃ tree, parse text = .ok tree) ∨
      ∃ error, parse text = .error error ∧ error.isMalformed = true) ↔ WithoutOverlong text) ∧
    (∀ digits, HasOverlong text.toList digits →
      parse text = .error (.scan (.tooManyDigits digits.length))) ∧
    (∀ error, parse text = .error error → detectIdentifiers text = .error error ∧
      ∀ slots, compile text slots = .error (.source error)) ∧
    ∀ cache, session.demand = .ok cache →
      (∀ error, parse text = .error error → (session.detect text).1 = .error (.source error)) ∧
      ((∃ issues, (set.validate session).1 = .ok issues) ↔
        ∀ rule ∈ set.items, WithoutOverlong rule.expression) := by
  intro session
  refine ⟨parse_cases_iff, fun digits => parse_of_hasOverlong, fun error => source_error_of_parse,
    ?_⟩
  intro cache demanded
  have faithful : session.Faithful := Session.faithful_start.after before
  constructor
  · intro error failed
    rw [faithful.detect_eq demanded, detectDirectly_of_parse failed]
  · rw [validate, validateRules_eq set.items faithful demanded, validateDirectly_eq_ok_iff]

/-- A number of 4301 digits is no malformed text, and its rule ends the validation before the issue
of another rule is listed. -/
theorem validation_ends_at_number :
    let number := String.ofList (List.replicate 4301 '1')
    let set : RuleSet := ⟨[⟨"broken", "1 ==", ""⟩, ⟨"number", number, ""⟩], by decide⟩
    parse number = .error (.scan (.tooManyDigits 4301)) ∧
      SourceError.isMalformed (.scan (.tooManyDigits 4301)) = false ∧
      (set.validate Session.start).1 = .error (.source (.scan (.tooManyDigits 4301))) := by
  intro number set
  have failed : parse number = .error (.scan (.tooManyDigits 4301)) :=
    parse_of_ones (by decide)
  obtain ⟨error, unread, malformed⟩ :
      ∃ error, parse "1 ==" = .error error ∧ error.isMalformed = true :=
    ⟨_, by with_unfolding_all rfl, rfl⟩
  refine ⟨failed, rfl, ?_⟩
  rw [validate, validateRules_eq set.items Session.faithful_start rfl,
    validateDirectly_of_failure (detectDirectly_of_parse unread),
    @validateDirectly_of_tooManyDigits ⟨"number", number, ""⟩ [] 4301 failed]
  exact if_pos malformed

end RuleSet

end Predicates
