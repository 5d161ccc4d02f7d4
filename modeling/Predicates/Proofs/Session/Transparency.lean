/-
This file shows that the answers of a session do not depend on what its cache remembers.
-/

import Predicates.Proofs.Cache.Lookup
import Predicates.Proofs.Outcome
import Predicates.Session

namespace Predicates

/-- The names of a text are found without a cache. -/
def detectDirectly (text : String) : Except Failure (List String) :=
  (detectIdentifiers text).mapError .source

/-- A text is evaluated without a cache. -/
def evaluateDirectly (text : String) (parameters : Parameters) : Except Failure Bool := do
  let names ← detectDirectly text
  evaluateBound text (parameters.restrict names)

namespace Session

variable {session : Session} {cache : IdentifierCache} {A : Type}

/-- The last answer leaves this session. -/
def after (session : Session) (requests : List Request) : Session :=
  ((session.answers requests).map Prod.snd).getLastD session

theorem after_cons (session : Session) (request : Request) (rest : List Request) :
    session.after (request :: rest) = (session.step request).2.after rest := by
  unfold after
  rw [answers, List.map_cons, List.getLastD_cons]

/-- Each request is answered by the session that the earlier requests leave. -/
theorem answers_getElem? (before rest : List Request) (request : Request) :
    ∀ session : Session, (session.answers (before ++ request :: rest))[before.length]? =
      some ((session.after before).step request) := by
  induction before with
  | nil =>
      intro session
      rfl
  | cons first others inductionHypothesis =>
      intro session
      rw [List.cons_append, answers, List.length_cons, List.getElem?_cons_succ,
        inductionHypothesis, after_cons]

/-- Only a cache that can be built is used. -/
theorem withCache_eq (demanded : session.demand = .ok cache)
    (use : IdentifierCache → Except Failure A × IdentifierCache) :
    session.withCache use = ((use cache).1, session.keep (use cache).2) := by
  unfold withCache
  rw [demanded]

/-- The cache of the session, if there is one, has the property. -/
def Holds (session : Session) (property : IdentifierCache → Prop) : Prop :=
  ∀ cache, session.cache? = some cache → property cache

variable {property : IdentifierCache → Prop}

theorem holds_keep (session : Session) (kept : property cache) :
    (session.keep cache).Holds property := by
  intro other found
  cases found
  exact kept

/-- A cache that is built anew is an empty one. -/
theorem Holds.demand (invariant : IdentifierCache.IsInvariant property)
    (holds : session.Holds property) (demanded : session.demand = .ok cache) : property cache := by
  unfold Session.demand at demanded
  cases kept : session.cache? with
  | some old =>
      rw [kept] at demanded
      cases demanded
      exact holds cache kept
  | none =>
      rw [kept] at demanded
      obtain ⟨settings, _, rfl⟩ := Outcome.map_eq_ok.mp demanded
      exact invariant.new settings

theorem detect_session (demanded : session.demand = .ok cache) (text : String) :
    (session.detect text).2 = session.keep (cache.get text).2 := by
  unfold detect
  rw [withCache_eq demanded]

/-- After a lookup, the cache need not be built again. -/
theorem demand_detect (demanded : session.demand = .ok cache) (text : String) :
    (session.detect text).2.demand = .ok (cache.get text).2 := by
  rw [detect_session demanded]
  rfl

theorem Holds.withCache {use : IdentifierCache → Except Failure A × IdentifierCache}
    (invariant : IdentifierCache.IsInvariant property) (holds : session.Holds property)
    (keeps : ∀ cache, property cache → property (use cache).2) :
    (session.withCache use).2.Holds property := by
  cases demanded : session.demand with
  | error error =>
      unfold Session.withCache
      rw [demanded]
      exact holds
  | ok cache =>
      rw [withCache_eq demanded]
      exact holds_keep session (keeps cache (holds.demand invariant demanded))

theorem Holds.detect (invariant : IdentifierCache.IsInvariant property)
    (holds : session.Holds property) (text : String) : (session.detect text).2.Holds property :=
  holds.withCache invariant fun cache kept => invariant.get cache text kept

/-- An evaluation changes the cache only by its lookup. -/
theorem evaluate_session (session : Session) (text : String) (parameters : Parameters) :
    (session.evaluate text parameters).2 = (session.detect text).2 := by
  unfold evaluate
  obtain ⟨outcome, next⟩ := session.detect text
  cases outcome <;> rfl

/-- An evaluation looks up the names of the text and then needs only these. -/
theorem evaluate_eq_bind (session : Session) (text : String) (parameters : Parameters) :
    (session.evaluate text parameters).1 =
      (session.detect text).1 >>= fun names => evaluateBound text (parameters.restrict names) := by
  unfold evaluate
  obtain ⟨outcome, next⟩ := session.detect text
  cases outcome <;> rfl

/-- Every request keeps what every use of a cache keeps. -/
theorem Holds.step (invariant : IdentifierCache.IsInvariant property)
    (holds : session.Holds property) (request : Request) :
    (session.step request).2.Holds property := by
  cases request with
  | configure size =>
      simp only [Session.step, answer, configure]
      cases Settings.ofSize size with
      | error error => exact holds
      | ok settings => exact holds_keep session (invariant.new settings)
  | environment raw =>
      intro cache found
      cases found
  | capacity => exact holds.withCache invariant fun _ kept => kept
  | detect text => exact holds.detect invariant text
  | evaluate text parameters =>
      simp only [Session.step, answer, evaluate_session]
      exact holds.detect invariant text
  | compile handle text parameters =>
      simp only [Session.step, answer, compile]
      cases compileFor text parameters <;> exact holds
  | execute handle parameters => exact holds
  | contains text => exact holds.withCache invariant fun _ kept => kept
  | clear => exact holds.withCache invariant invariant.clear

/-- A run of requests keeps it too. -/
theorem Holds.after (invariant : IdentifierCache.IsInvariant property) (requests : List Request) :
    ∀ {session : Session}, session.Holds property → (session.after requests).Holds property := by
  induction requests with
  | nil =>
      intro session holds
      exact holds
  | cons request rest inductionHypothesis =>
      intro session holds
      rw [after_cons]
      exact inductionHypothesis (holds.step invariant request)

theorem holds_start (invariant : IdentifierCache.IsInvariant property) : start.Holds property := by
  intro cache found
  cases found
  exact invariant.new .unbounded

/-- Each entry of the cache holds the names of its text. -/
def Faithful (session : Session) : Prop :=
  ∀ cache, session.cache? = some cache → cache.Faithful

theorem Faithful.demand (faithful : session.Faithful) (demanded : session.demand = .ok cache) :
    cache.Faithful :=
  Holds.demand IdentifierCache.faithful_isInvariant faithful demanded

theorem Faithful.detect (faithful : session.Faithful) (text : String) :
    (session.detect text).2.Faithful :=
  Holds.detect IdentifierCache.faithful_isInvariant faithful text

theorem Faithful.after (requests : List Request) (faithful : session.Faithful) :
    (session.after requests).Faithful :=
  Holds.after IdentifierCache.faithful_isInvariant requests faithful

theorem faithful_start : start.Faithful :=
  holds_start IdentifierCache.faithful_isInvariant

theorem Faithful.detect_eq (faithful : session.Faithful) (demanded : session.demand = .ok cache)
    (text : String) : (session.detect text).1 = detectDirectly text := by
  unfold Session.detect detectDirectly
  rw [withCache_eq demanded]
  simp only [(faithful.demand demanded).answer text]

theorem Faithful.evaluate_eq (faithful : session.Faithful)
    (demanded : session.demand = .ok cache) (text : String) (parameters : Parameters) :
    (session.evaluate text parameters).1 = evaluateDirectly text parameters := by
  rw [evaluate_eq_bind, faithful.detect_eq demanded]
  rfl

/-- A session is ready when its cache is there or can be built. -/
def readiness (session : Session) : Except SettingError Unit :=
  session.demand.map fun _ => ()

/-- The names of a text are those of the text itself, or the session is not ready. -/
theorem Faithful.detect_eq_readiness (faithful : session.Faithful) (text : String) :
    (session.detect text).1 =
      session.readiness.mapError .setting >>= fun _ => detectDirectly text := by
  unfold readiness
  cases demanded : session.demand with
  | error error =>
      unfold Session.detect Session.withCache
      rw [demanded]
      rfl
  | ok cache =>
      rw [faithful.detect_eq demanded]
      rfl

/-- Whatever was requested before, every entry holds the names of its text, and a request is
answered as if its text were read at once. -/
theorem cache_transparent (before rest : List Request) :
    (∀ cache, (start.after before).cache? = some cache →
      ∀ entry ∈ cache.entries, detectIdentifiers entry.1 = .ok entry.2) ∧
    ∀ cache, (start.after before).demand = .ok cache →
      (∀ text, ((start.answers (before ++ .detect text :: rest))[before.length]?).map Prod.fst =
        some ((detectDirectly text).map .names)) ∧
      ∀ text parameters,
        ((start.answers (before ++ .evaluate text parameters :: rest))[before.length]?).map
          Prod.fst = some ((evaluateDirectly text parameters).map .truth) := by
  have faithful : (start.after before).Faithful := faithful_start.after before
  refine ⟨faithful, ?_⟩
  intro cache demanded
  constructor
  · intro text
    rw [answers_getElem?, ← faithful.detect_eq demanded text]
    rfl
  · intro text parameters
    rw [answers_getElem?, ← faithful.evaluate_eq demanded text parameters]
    rfl

end Session

end Predicates
