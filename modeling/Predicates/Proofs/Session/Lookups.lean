/-
This file describes what the calls of a session do to its cache by the texts that they look up.
-/

import Predicates.Proofs.Cache.Contents
import Predicates.Proofs.Rules.Validation
import Predicates.Proofs.Session.Referenced

namespace Predicates

namespace RuleSet

variable {rule : Rule} {rules rest : List Rule}

/-- A validation goes on behind a text that is read or malformed. -/
def goesOn : Except Failure (List String) → Bool
  | .ok _ => true
  | .error failure => failure.isMalformed

/-- A validation looks up the rules in their order until it does not go on. -/
def lookedUp : List Rule → List String
  | [] => []
  | rule :: rest =>
    rule.expression :: if goesOn (detectDirectly rule.expression) then lookedUp rest else []

/-- A validation goes on exactly when no whole number of the text has too many digits. -/
theorem goesOn_detectDirectly {text : String} :
    goesOn (detectDirectly text) = true ↔ WithoutOverlong text := by
  cases parsed : parse text with
  | ok tree =>
      rw [detectDirectly_of_tree parsed]
      exact iff_of_true rfl (withoutOverlong_of_parse parsed)
  | error error =>
      rw [detectDirectly_of_parse parsed]
      exact isMalformed_iff parsed

/-- All rules are looked up as long as the validation goes on. -/
theorem lookedUp_append (without : ∀ rule ∈ rules, WithoutOverlong rule.expression) :
    lookedUp (rules ++ rest) = rules.map Rule.expression ++ lookedUp rest := by
  induction rules with
  | nil => rfl
  | cons rule rules inductionHypothesis =>
      rw [List.forall_mem_cons] at without
      rw [List.cons_append, lookedUp, if_pos (goesOn_detectDirectly.mpr without.1),
        inductionHypothesis without.2]
      rfl

theorem lookedUp_of_without (without : ∀ rule ∈ rules, WithoutOverlong rule.expression) :
    lookedUp rules = rules.map Rule.expression := by
  have all := @lookedUp_append rules [] without
  rwa [List.append_nil, lookedUp, List.append_nil] at all

/-- No rule behind a whole number with too many digits is looked up. -/
theorem lookedUp_of_hasOverlong {digits : List Char}
    (without : ∀ rule ∈ rules, WithoutOverlong rule.expression)
    (overlong : HasOverlong rule.expression.toList digits) :
    lookedUp (rules ++ rule :: rest) = (rules ++ [rule]).map Rule.expression := by
  have ends : ¬ goesOn (detectDirectly rule.expression) = true :=
    fun goesOn => goesOn_detectDirectly.mp goesOn digits overlong
  rw [lookedUp_append without, lookedUp, if_neg ends, List.map_append]
  rfl

/-- The validation of a rule leaves the session as its lookup does. -/
theorem validateRules_session_cons (session : Session) :
    (validateRules (rule :: rest) session).2 =
      if goesOn (session.detect rule.expression).1 then
        (validateRules rest (session.detect rule.expression).2).2
      else (session.detect rule.expression).2 := by
  rw [validateRules]
  obtain ⟨outcome, after⟩ := session.detect rule.expression
  cases outcome with
  | ok names => rfl
  | error failure =>
      change (if failure.isMalformed = true then _ else (Except.error failure, after)).2 =
        if failure.isMalformed = true then _ else after
      split <;> rfl

end RuleSet

namespace Session

variable {session : Session} {cache : IdentifierCache} {property : IdentifierCache → Prop}

/-- The names of the texts are detected one after the other. -/
def detectAll (session : Session) (texts : List String) : Session :=
  texts.foldl (fun session text => (session.detect text).2) session

theorem demand_detectAll (texts : List String) {session : Session} {cache : IdentifierCache}
    (demanded : session.demand = .ok cache) :
    (session.detectAll texts).demand = .ok (cache.after (texts.map .get)) := by
  induction texts generalizing session cache with
  | nil => exact demanded
  | cons text rest inductionHypothesis =>
      rw [List.map_cons, IdentifierCache.after_cons]
      exact inductionHypothesis (demand_detect demanded text)

/-- A validation leaves the session as its lookups do. -/
theorem Faithful.validateRules_session (faithful : session.Faithful)
    (demanded : session.demand = .ok cache) (rules : List Rule) :
    (RuleSet.validateRules rules session).2 = session.detectAll (RuleSet.lookedUp rules) := by
  -- Each lookup may change the cache, so the induction goes on from any faithful session.
  induction rules generalizing session cache with
  | nil => rfl
  | cons rule rest inductionHypothesis =>
      have behind := inductionHypothesis (faithful.detect rule.expression)
        (demand_detect demanded rule.expression)
      rw [RuleSet.validateRules_session_cons, RuleSet.lookedUp, faithful.detect_eq demanded]
      split
      · exact behind
      · rfl

theorem Holds.validateRules (invariant : IdentifierCache.IsInvariant property)
    (holds : session.Holds property) (rules : List Rule) :
    (RuleSet.validateRules rules session).2.Holds property := by
  induction rules generalizing session with
  | nil => exact holds
  | cons rule rest inductionHypothesis =>
      have next := holds.detect invariant rule.expression
      rw [RuleSet.validateRules_session_cons]
      split
      · exact inductionHypothesis next
      · exact next

/-- A session is called by itself or through the rules of a set. -/
inductive Call where
  | request (request : Request)
  | evaluateRule (set : RuleSet) (name : String) (parameters : Parameters)
  | requireRule (set : RuleSet) (name : String)
  | validate (set : RuleSet)

namespace Call

/-- New settings replace the cache, and a change of the environment drops it. -/
def reconfigures : Call → Bool
  | .request (.configure size) => (Settings.ofSize size).isOk
  | .request (.environment _) => true
  | _ => false

/-- These texts are looked up by the call, and the cache is emptied only on request. -/
def trace : Call → List IdentifierCache.Request
  | .request (.detect text) => [.get text]
  | .request (.evaluate text _) => [.get text]
  | .request .clear => [.clear]
  | .request _ => []
  | .evaluateRule set name _ => (set.find? name).toList.map fun rule => .get rule.expression
  | .requireRule set name => (set.find? name).toList.map fun rule => .get rule.expression
  | .validate set => (RuleSet.lookedUp set.items).map .get

end Call

/-- A call leaves this session. -/
def leave (session : Session) : Call → Session
  | .request request => (session.step request).2
  | .evaluateRule set name parameters => (set.evaluate session name parameters).2
  | .requireRule set name => (set.requiredParameters session name).2
  | .validate set => (set.validate session).2

def afterCalls (session : Session) (calls : List Call) : Session :=
  calls.foldl leave session

/-- The rule of this name leaves the session as a lookup of its text does, if there is such a
rule. -/
theorem evaluateRule_session (session : Session) (set : RuleSet) (name : String)
    (parameters : Parameters) :
    (set.evaluate session name parameters).2 = (set.requiredParameters session name).2 := by
  unfold RuleSet.evaluate RuleSet.requiredParameters
  cases found : set.get name with
  | error failure => rw [RuleSet.withRule_of_error found, RuleSet.withRule_of_error found]
  | ok rule => rw [RuleSet.withRule_of_ok found, RuleSet.withRule_of_ok found, evaluate_session]

theorem demand_requireRule (demanded : session.demand = .ok cache) (set : RuleSet) (name : String) :
    (set.requiredParameters session name).2.demand =
      .ok (cache.after (Call.requireRule set name).trace) := by
  unfold RuleSet.requiredParameters
  cases known : set.find? name with
  | none =>
      have missing : set.get name = .error (.unknownRule name) := by rw [RuleSet.get, known]
      rw [RuleSet.withRule_of_error missing, Call.trace, known]
      exact demanded
  | some rule =>
      have found : set.get name = .ok rule := by rw [RuleSet.get, known]
      rw [RuleSet.withRule_of_ok found, Call.trace, known]
      exact demand_detect demanded rule.expression

/-- A request that does not reconfigure the session does to the cache what its trace does. -/
theorem demand_step (demanded : session.demand = .ok cache) {request : Request}
    (kept : (Call.request request).reconfigures = false) :
    (session.step request).2.demand = .ok (cache.after (Call.request request).trace) := by
  cases request with
  | configure size =>
      simp only [step, answer, configure]
      cases read : Settings.ofSize size with
      | error error => exact demanded
      | ok settings =>
          rw [Call.reconfigures, read] at kept
          cases kept
  | environment raw => cases kept
  | capacity =>
      simp only [step, answer, capacity, withCache_eq demanded]
      rfl
  | detect text => exact demand_detect demanded text
  | evaluate text parameters =>
      simp only [step, answer, evaluate_session]
      exact demand_detect demanded text
  | compile handle text parameters =>
      simp only [step, answer, compile]
      cases compileFor text parameters <;> exact demanded
  | execute handle parameters => exact demanded
  | contains text =>
      simp only [step, answer, contains, withCache_eq demanded]
      rfl
  | clear =>
      simp only [step, answer, clear, withCache_eq demanded]
      rfl

/-- The same holds for the calls of rules. -/
theorem Faithful.demand_leave (faithful : session.Faithful) (demanded : session.demand = .ok cache)
    {call : Call} (kept : call.reconfigures = false) :
    (session.leave call).demand = .ok (cache.after call.trace) := by
  cases call with
  | request request => exact demand_step demanded kept
  | evaluateRule set name parameters =>
      rw [Session.leave, evaluateRule_session]
      exact demand_requireRule demanded set name
  | requireRule set name => exact demand_requireRule demanded set name
  | validate set =>
      rw [Session.leave, RuleSet.validate, faithful.validateRules_session demanded]
      exact demand_detectAll _ demanded

/-- Every call keeps what every use of a cache keeps. -/
theorem Holds.leave (invariant : IdentifierCache.IsInvariant property)
    (holds : session.Holds property) (call : Call) : (session.leave call).Holds property := by
  have requireRule (set : RuleSet) (name : String) :
      (set.requiredParameters session name).2.Holds property := by
    unfold RuleSet.requiredParameters
    cases found : set.get name with
    | error failure =>
        rw [RuleSet.withRule_of_error found]
        exact holds
    | ok rule =>
        rw [RuleSet.withRule_of_ok found]
        exact holds.detect invariant rule.expression
  cases call with
  | request request => exact holds.step invariant request
  | evaluateRule set name parameters =>
      rw [Session.leave, evaluateRule_session]
      exact requireRule set name
  | requireRule set name => exact requireRule set name
  | validate set => exact holds.validateRules invariant set.items

/-- A run of calls keeps it too. -/
theorem Holds.afterCalls (invariant : IdentifierCache.IsInvariant property) (calls : List Call) :
    ∀ {session : Session}, session.Holds property → (session.afterCalls calls).Holds property := by
  induction calls with
  | nil => exact fun holds => holds
  | cons call rest inductionHypothesis =>
      exact fun holds => inductionHypothesis (holds.leave invariant call)

theorem Faithful.leave (faithful : session.Faithful) (call : Call) :
    (session.leave call).Faithful :=
  Holds.leave IdentifierCache.faithful_isInvariant faithful call

theorem Faithful.afterCalls (calls : List Call) (faithful : session.Faithful) :
    (session.afterCalls calls).Faithful :=
  Holds.afterCalls IdentifierCache.faithful_isInvariant calls faithful

/-- Between two configurations, the cache is the one that the lookups of the calls leave. -/
theorem Faithful.demand_afterCalls (calls : List Call) {session : Session}
    {cache : IdentifierCache} (faithful : session.Faithful) (demanded : session.demand = .ok cache)
    (kept : ∀ call ∈ calls, call.reconfigures = false) :
    (session.afterCalls calls).demand = .ok (cache.after (calls.flatMap Call.trace)) := by
  induction calls generalizing session cache with
  | nil => exact demanded
  | cons call rest inductionHypothesis =>
      rw [List.forall_mem_cons] at kept
      rw [List.flatMap_cons, IdentifierCache.after_append]
      exact inductionHypothesis (faithful.leave call) (faithful.demand_leave demanded kept.1) kept.2

/-- Whatever was called before, an evaluation of a text or of a known rule leaves the session as a
lookup of the text does, whether it fails or not. Compilations and executions leave the cache alone,
and so do calls of an unknown rule. A validation leaves the session as one lookup for each rule
does, in the order of the set, unless a whole number with too many digits ends it at its rule. So
the cache between two configurations follows from the lookups alone. -/
theorem cache_follows_lookups (earlier : List Call) {cache : IdentifierCache}
    (demanded : (start.afterCalls earlier).demand = .ok cache) :
    let session := start.afterCalls earlier
    (∀ text, (session.detect text).2.demand = .ok (cache.get text).2 ∧
      ∀ parameters, (session.evaluate text parameters).2 = (session.detect text).2) ∧
    (∀ (set : RuleSet) name rule, set.get name = .ok rule →
      (set.requiredParameters session name).2 = (session.detect rule.expression).2 ∧
      ∀ parameters,
        (set.evaluate session name parameters).2 = (session.detect rule.expression).2) ∧
    (∀ (set : RuleSet) name failure, set.get name = .error failure →
      (set.requiredParameters session name).2 = session ∧
      ∀ parameters, (set.evaluate session name parameters).2 = session) ∧
    (∀ handle text parameters,
      (session.compile handle text parameters).2.cache? = session.cache? ∧
      (session.step (.execute handle parameters)).2 = session) ∧
    (∀ set : RuleSet, (∀ rule ∈ set.items, WithoutOverlong rule.expression) →
      (set.validate session).2 = session.detectAll (set.items.map Rule.expression)) ∧
    (∀ (set : RuleSet) before rule rest digits, set.items = before ++ rule :: rest →
      (∀ other ∈ before, WithoutOverlong other.expression) →
      HasOverlong rule.expression.toList digits →
      (set.validate session).2 = session.detectAll ((before ++ [rule]).map Rule.expression)) ∧
    ∀ calls : List Call, (∀ call ∈ calls, call.reconfigures = false) →
      (session.afterCalls calls).demand = .ok (cache.after (calls.flatMap Call.trace)) := by
  intro session
  have faithful : session.Faithful := Faithful.afterCalls earlier faithful_start
  have validated (set : RuleSet) :
      (set.validate session).2 = session.detectAll (RuleSet.lookedUp set.items) :=
    faithful.validateRules_session demanded set.items
  refine ⟨fun text => ⟨demand_detect demanded text, evaluate_session session text⟩, ?_, ?_, ?_, ?_,
    ?_, fun calls => faithful.demand_afterCalls calls demanded⟩
  · intro set name rule found
    have looked : (set.requiredParameters session name).2 = (session.detect rule.expression).2 := by
      rw [RuleSet.requiredParameters, RuleSet.withRule_of_ok found]
    exact ⟨looked, fun parameters => (evaluateRule_session session set name parameters).trans looked⟩
  · intro set name failure missing
    have untouched : (set.requiredParameters session name).2 = session := by
      rw [RuleSet.requiredParameters, RuleSet.withRule_of_error missing]
    exact ⟨untouched,
      fun parameters => (evaluateRule_session session set name parameters).trans untouched⟩
  · intro handle text parameters
    refine ⟨?_, rfl⟩
    unfold Session.compile
    cases compileFor text parameters <;> rfl
  · intro set without
    rw [validated, RuleSet.lookedUp_of_without without]
  · intro set before rule rest digits split without overlong
    rw [validated, split, RuleSet.lookedUp_of_hasOverlong without overlong]

/-- A cache of two entries follows the lookups of an evaluation that fails, of one that succeeds and
of a validation, and the validation of another set ends at a number. -/
theorem cache_follows_lookups_bounded :
    let earlier : List Call := [.request (.configure (some 2)), .request (.detect "a")]
    let session := start.afterCalls earlier
    let none : Parameters := ⟨[], by decide⟩
    let set : RuleSet := ⟨[⟨"low", "!b", ""⟩, ⟨"broken", "1 ==", ""⟩], by decide⟩
    let number := String.ofList (List.replicate 4301 '1')
    let long : RuleSet := ⟨[⟨"low", "!b", ""⟩, ⟨"number", number, ""⟩, ⟨"last", "c", ""⟩], by decide⟩
    let calls : List Call := [.evaluateRule set "low" none,
      .request (.evaluate "c" ⟨[("c", .bool true)], by decide⟩), .validate set,
      .requireRule set "high"]
    session.demand = .ok ⟨some 2, [("a", ["a"])], 1⟩ ∧
      (∃ failure, (set.evaluate session "low" none).1 = .error failure) ∧
      (set.evaluate session "low" none).2 = (session.detect "!b").2 ∧
      (set.evaluate session "high" none).2 = session ∧
      (set.validate session).2 = session.detectAll ["!b", "1 =="] ∧
      (long.validate session).2 = session.detectAll ["!b", number] ∧
      (session.afterCalls calls).demand.map IdentifierCache.texts = .ok ["c", "!b"] := by
  intro earlier session none set number long calls
  have demanded : session.demand = .ok ⟨some 2, [("a", ["a"])], 1⟩ := by
    with_unfolding_all rfl
  obtain ⟨-, known, unknown, -, validated, ended, followed⟩ :=
    cache_follows_lookups earlier demanded
  have fails : ∃ failure, (set.evaluate session "low" none).1 = .error failure :=
    ⟨_, by with_unfolding_all rfl⟩
  have low : WithoutOverlong "!b" := parse_cases_iff.mp (Or.inl ⟨_, by with_unfolding_all rfl⟩)
  have broken : WithoutOverlong "1 ==" :=
    parse_cases_iff.mp (Or.inr ⟨_, by with_unfolding_all rfl, rfl⟩)
  obtain ⟨digits, overlong, -⟩ := parse_eq_tooManyDigits.mp (@parse_of_ones 4301 (by decide))
  have without : ∀ rule ∈ set.items, WithoutOverlong rule.expression := by
    simp [set, low, broken]
  have traced : calls.flatMap Call.trace =
      [.get "!b", .get "c", .get "!b", .get "1 =="] := by
    simp only [calls, List.flatMap_cons, Call.trace, RuleSet.lookedUp_of_without without]
    rfl
  have reconfigured : ∀ call ∈ calls, call.reconfigures = false := by
    simp [calls, Call.reconfigures]
  refine ⟨demanded, fails, (known set "low" ⟨"low", "!b", ""⟩ rfl).2 none,
    (unknown set "high" _ rfl).2 none, ?_, ?_, ?_⟩
  · exact validated set without
  · exact ended long [⟨"low", "!b", ""⟩] ⟨"number", number, ""⟩ [⟨"last", "c", ""⟩] digits rfl
      (by simp [low]) overlong
  · rw [followed calls reconfigured, traced]
    with_unfolding_all rfl

/-- The number of one rule keeps the validation from the text of the next one, which would be
remembered if each rule were looked up. -/
theorem validation_looks_up_no_further :
    let number := String.ofList (List.replicate 4301 '1')
    let set : RuleSet := ⟨[⟨"number", number, ""⟩, ⟨"last", "x", ""⟩], by decide⟩
    (set.validate start).2.demand.map IdentifierCache.texts = .ok [] ∧
      (start.detectAll (set.items.map Rule.expression)).demand.map IdentifierCache.texts =
        .ok ["x"] := by
  intro number set
  have failed : parse number = .error (.scan (.tooManyDigits 4301)) := parse_of_ones (by decide)
  have unread : detectIdentifiers number = .error (.scan (.tooManyDigits 4301)) :=
    (source_error_of_parse failed).1
  have scanned : ((IdentifierCache.empty none).get number).2 = ⟨none, [], 1⟩ := by
    rcases (IdentifierCache.empty none).get_cases number with
      ⟨names, remembered, -⟩ | ⟨names, -, detected, -⟩ | ⟨error, -, -, answer⟩
    · cases remembered
    · rw [unread] at detected
      cases detected
    · rw [answer]
      rfl
  have looked : start.detectAll [number] = start.keep ⟨none, [], 1⟩ := by
    rw [detectAll, List.foldl_cons, List.foldl_nil, detect_session rfl, scanned]
  obtain ⟨digits, overlong, -⟩ := parse_eq_tooManyDigits.mp failed
  have ended : RuleSet.lookedUp set.items = [number] :=
    @RuleSet.lookedUp_of_hasOverlong ⟨"number", number, ""⟩ [] _ digits (by simp) overlong
  constructor
  · rw [RuleSet.validate, faithful_start.validateRules_session rfl, ended, looked]
    rfl
  · change ((start.detectAll [number]).detect "x").2.demand.map _ = _
    rw [looked]
    with_unfolding_all rfl

end Session

end Predicates
