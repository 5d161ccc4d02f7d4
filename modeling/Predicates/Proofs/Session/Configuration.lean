/-
This file shows that refused settings leave a session as it was, that every use of the cache fails
alike until settings are accepted, and that a bounded cache always keeps to its bound.
-/

import Predicates.Proofs.Session.Lookups

namespace Predicates

namespace Settings

variable {raw : Option String} {size : Option Int} {error : SettingError} {settings : Settings}

/-- A size is accepted unless it is negative. -/
def Accepts (size : Option Int) : Prop :=
  ∀ count, size = some count → 0 ≤ count

/-- The text of the environment without the blanks at its ends. -/
def environmentText (raw : Option String) : List Char :=
  stripBlanks (raw.getD "").toList

/-- The environment asks for no size when its text is blank. -/
inductive AsksFor (raw : Option String) : Option Int → Prop where
  | nothing (blank : environmentText raw = []) : AsksFor raw none
  | size {count : Int} (read : readInteger? (environmentText raw) = some count) :
      AsksFor raw (some count)

/-- The text of the environment is no whole number, or it asks for a negative size. -/
inductive Refuses (raw : Option String) : SettingError → Prop where
  | unread (present : environmentText raw ≠ [])
      (unread : readInteger? (environmentText raw) = none) :
      Refuses raw (.notInteger (String.ofList (environmentText raw)))
  | negative {count : Int} (asked : AsksFor raw (some count)) (negative : count < 0) :
      Refuses raw (.negativeSize count)

theorem ofSize_of_negative {count : Int} (negative : count < 0) :
    ofSize (some count) = .error (.negativeSize count) :=
  if_pos negative

/-- Sizes are accepted exactly when they give settings. -/
theorem exists_ofSize : (∃ settings, ofSize size = .ok settings) ↔ Accepts size := by
  cases size with
  | none => exact iff_of_true ⟨unbounded, rfl⟩ fun count asked => nomatch asked
  | some count =>
      by_cases negative : count < 0
      · rw [ofSize_of_negative negative]
        refine iff_of_false (fun ⟨settings, impossible⟩ => nomatch impossible) fun accepts => ?_
        exact absurd (accepts count rfl) (Int.not_le.mpr negative)
      · refine iff_of_true ⟨⟨some count.toNat⟩, if_neg negative⟩ ?_
        intro other same
        cases same
        exact Int.not_lt.mp negative

/-- What the environment asks for is decided like a size that is given. -/
theorem ofEnvironment_of_asksFor (asked : AsksFor raw size) : ofEnvironment raw = ofSize size := by
  cases asked with
  | nothing blank =>
      unfold environmentText at blank
      rw [ofEnvironment, blank]
      rfl
  | size read =>
      have present : environmentText raw ≠ [] := by
        intro blank
        rw [blank] at read
        cases read
      unfold environmentText at present read
      simp only [ofEnvironment, List.isEmpty_iff, present, read, if_false]

theorem ofEnvironment_of_refuses (refused : Refuses raw error) :
    ofEnvironment raw = .error error := by
  cases refused with
  | unread present unread =>
      unfold environmentText at present unread ⊢
      simp only [ofEnvironment, List.isEmpty_iff, present, unread, if_false]
  | negative asked negative =>
      rw [ofEnvironment_of_asksFor asked, ofSize_of_negative negative]

/-- The environment asks for a size that is accepted, or it is refused. -/
theorem asksFor_or_refuses (raw : Option String) :
    (∃ size, AsksFor raw size ∧ Accepts size) ∨ ∃ error, Refuses raw error := by
  by_cases blank : environmentText raw = []
  · exact Or.inl ⟨none, .nothing blank, fun count asked => nomatch asked⟩
  · cases read : readInteger? (environmentText raw) with
    | none => exact Or.inr ⟨_, .unread blank read⟩
    | some count =>
        by_cases negative : count < 0
        · exact Or.inr ⟨_, .negative (.size read) negative⟩
        · refine Or.inl ⟨some count, .size read, ?_⟩
          intro other same
          cases same
          exact Int.not_lt.mp negative

end Settings

namespace IdentifierCache

variable {cache : IdentifierCache} {size : Option Int} {settings : Settings}

/-- The cache is empty. Without a size or with the size zero it has no bound, and with any other size
this is its bound. -/
structure IsNewFor (cache : IdentifierCache) (size : Option Int) : Prop where
  entries : cache.entries = []
  unbounded : cache.capacity = none ↔ size = none ∨ size = some 0
  bounded : ∀ limit, cache.capacity = some limit → size = some (limit : Int)

theorem isNewFor_ofSettings (read : Settings.ofSize size = .ok settings) :
    (ofSettings settings).IsNewFor size := by
  cases size with
  | none =>
      cases read
      exact ⟨rfl, iff_of_true rfl (Or.inl rfl), fun limit bounded => nomatch bounded⟩
  | some count =>
      have accepted : 0 ≤ count := Settings.exists_ofSize.mp ⟨settings, read⟩ count rfl
      rw [Settings.ofSize, if_neg (Int.not_lt.mpr accepted)] at read
      cases read
      change (empty (Option.filter (· ≠ 0) (some count.toNat))).IsNewFor (some count)
      by_cases zero : count.toNat = 0
      · have same : count = 0 := by omega
        rw [Option.filter_some_neg (by simp [zero]), same]
        exact ⟨rfl, iff_of_true rfl (Or.inr rfl), fun limit bounded => nomatch bounded⟩
      · have other : count ≠ 0 := by omega
        rw [Option.filter_some_pos (by simp [zero])]
        refine ⟨rfl, iff_of_false (fun none => nomatch none) (by simp [other]), ?_⟩
        intro limit bounded
        cases bounded
        rw [Int.toNat_of_nonneg accepted]

/-- A bounded cache has room for some entry and holds no more entries than its bound. -/
def Bounded (cache : IdentifierCache) : Prop :=
  ∀ limit, cache.capacity = some limit → 1 ≤ limit ∧ cache.entries.length ≤ limit

theorem length_entries (cache : IdentifierCache) : cache.entries.length = cache.texts.length :=
  (List.length_map _).symm

theorem bounded_ofSettings (settings : Settings) : (ofSettings settings).Bounded := by
  intro limit bounded
  obtain ⟨-, positive⟩ := Option.filter_eq_some_iff.mp bounded
  exact ⟨Nat.one_le_iff_ne_zero.mpr (of_decide_eq_true positive), Nat.zero_le limit⟩

/-- A lookup makes room before it adds an entry. -/
theorem Bounded.get (bounded : cache.Bounded) (text : String) : (cache.get text).2.Bounded := by
  rcases cache.get_cases text with ⟨names, found, answer⟩ | ⟨names, -, -, answer⟩ |
    ⟨error, -, -, answer⟩
  · rw [answer]
    intro limit capacity
    rw [capacity_touch] at capacity
    obtain ⟨positive, room⟩ := bounded limit capacity
    rw [length_entries] at room ⊢
    rw [texts_touch, capacity]
    exact ⟨positive, (Recency.length_moveLast_of_mem (mem_texts_of_lookup? found)).trans room⟩
  · rw [answer]
    intro limit capacity
    rw [capacity_insert] at capacity
    obtain ⟨positive, -⟩ := bounded limit capacity
    rw [length_entries, texts_insert]
    dsimp only at capacity ⊢
    rw [capacity]
    exact ⟨positive, Recency.length_rtake_le⟩
  · rw [answer]
    exact bounded

theorem bounded_isInvariant : IsInvariant Bounded where
  new := bounded_ofSettings
  get _ text bounded := bounded.get text
  clear _ bounded limit capacity := ⟨(bounded limit capacity).1, Nat.zero_le limit⟩

end IdentifierCache

namespace Session

variable {session : Session} {cache : IdentifierCache} {error : SettingError} {A : Type}

/-- These requests need the cache. -/
def Request.usesCache : Request → Bool
  | .capacity => true
  | .detect _ => true
  | .evaluate _ _ => true
  | .contains _ => true
  | .clear => true
  | _ => false

/-- A session is stuck when it has no cache and the environment is refused. -/
structure StuckWith (session : Session) (error : SettingError) : Prop where
  absent : session.cache? = none
  refused : Settings.Refuses session.environment error

theorem StuckWith.demand (stuck : session.StuckWith error) : session.demand = .error error := by
  unfold Session.demand
  rw [stuck.absent, Settings.ofEnvironment_of_refuses stuck.refused]
  rfl

theorem StuckWith.withCache (stuck : session.StuckWith error)
    (use : IdentifierCache → Except Failure A × IdentifierCache) :
    session.withCache use = (.error (.setting error), session) := by
  unfold Session.withCache
  rw [stuck.demand]

theorem StuckWith.detect (stuck : session.StuckWith error) (text : String) :
    session.detect text = (.error (.setting error), session) :=
  stuck.withCache _

theorem StuckWith.evaluate (stuck : session.StuckWith error) (text : String)
    (parameters : Parameters) :
    session.evaluate text parameters = (.error (.setting error), session) := by
  rw [Session.evaluate, stuck.detect]

/-- Every request that needs the cache fails in the same way. -/
theorem StuckWith.step (stuck : session.StuckWith error) {request : Request}
    (uses : request.usesCache = true) :
    session.step request = (.error (.setting error), session) := by
  cases request with
  | capacity => simp only [Session.step, Session.capacity, answer, stuck.withCache, Except.map]
  | detect text => simp only [Session.step, answer, stuck.detect, Except.map]
  | evaluate text parameters => simp only [Session.step, answer, stuck.evaluate, Except.map]
  | contains text =>
      simp only [Session.step, Session.contains, answer, stuck.withCache, Except.map]
  | clear => simp only [Session.step, Session.clear, answer, stuck.withCache, Except.map]
  | configure size => cases uses
  | environment raw => cases uses
  | compile handle text parameters => cases uses
  | execute handle parameters => cases uses

/-- The rules of a set need the cache too. -/
theorem StuckWith.withRule (stuck : session.StuckWith error) {set : RuleSet} {name : String}
    {rule : Rule} (found : set.get name = .ok rule) (parameters : Parameters) :
    set.evaluate session name parameters = (.error (.expression (.setting error)), session) ∧
      set.requiredParameters session name = (.error (.expression (.setting error)), session) := by
  constructor
  · rw [RuleSet.evaluate, RuleSet.withRule_of_ok found, stuck.evaluate]
    rfl
  · rw [RuleSet.requiredParameters, RuleSet.withRule_of_ok found, stuck.detect]
    rfl

/-- A validation fails at its first rule. -/
theorem StuckWith.validate (stuck : session.StuckWith error) {set : RuleSet}
    (filled : set.items ≠ []) : set.validate session = (.error (.setting error), session) := by
  obtain ⟨rule, rest, items⟩ := List.exists_cons_of_ne_nil filled
  rw [RuleSet.validate, items, RuleSet.validateRules, stuck.detect]
  rfl

/-- Only accepted settings and a change of the environment release a session. -/
theorem StuckWith.leave (stuck : session.StuckWith error) {call : Call}
    (kept : call.reconfigures = false) : (session.leave call).StuckWith error := by
  have requireRule (set : RuleSet) (name : String) :
      (set.requiredParameters session name).2 = session := by
    unfold RuleSet.requiredParameters
    cases found : set.get name with
    | error failure => rw [RuleSet.withRule_of_error found]
    | ok rule => rw [RuleSet.withRule_of_ok found, stuck.detect]
  cases call with
  | request request =>
      by_cases uses : request.usesCache = true
      · rw [Session.leave, stuck.step uses]
        exact stuck
      · cases request with
        | configure size =>
            simp only [Session.leave, Session.step, answer, Session.configure]
            cases read : Settings.ofSize size with
            | error error => exact stuck
            | ok settings =>
                rw [Call.reconfigures, read] at kept
                cases kept
        | environment raw => cases kept
        | compile handle text parameters =>
            simp only [Session.leave, Session.step, answer, Session.compile]
            cases compileFor text parameters with
            | error failure => exact stuck
            | ok compiled => exact ⟨stuck.absent, stuck.refused⟩
        | execute handle parameters => exact stuck
        | _ => exact absurd rfl uses
  | evaluateRule set name parameters =>
      rw [Session.leave, evaluateRule_session, requireRule]
      exact stuck
  | requireRule set name =>
      rw [Session.leave, requireRule]
      exact stuck
  | validate set =>
      rw [Session.leave]
      by_cases filled : set.items = []
      · rw [RuleSet.validate, filled]
        exact stuck
      · rw [stuck.validate filled]
        exact stuck

theorem StuckWith.afterCalls (calls : List Call) :
    ∀ {session : Session}, session.StuckWith error →
      (∀ call ∈ calls, call.reconfigures = false) → (session.afterCalls calls).StuckWith error := by
  induction calls with
  | nil => exact fun stuck _ => stuck
  | cons call rest inductionHypothesis =>
      intro session stuck kept
      rw [List.forall_mem_cons] at kept
      exact inductionHypothesis (stuck.leave kept.1) kept.2

/-- A request that needs the cache is answered as if its new cache had been there before. -/
theorem step_of_demand (demanded : session.demand = .ok cache) {request : Request}
    (uses : request.usesCache = true) :
    session.step request = (session.keep cache).step request := by
  have sameUse {A : Type} (use : IdentifierCache → Except Failure A × IdentifierCache) :
      session.withCache use = (session.keep cache).withCache use := by
    have kept : (session.keep cache).demand = .ok cache := rfl
    rw [withCache_eq demanded, withCache_eq kept]
    rfl
  have sameDetect (text : String) : session.detect text = (session.keep cache).detect text :=
    sameUse _
  cases request with
  | capacity => simp only [Session.step, Session.capacity, sameUse]
  | detect text => simp only [Session.step, sameDetect]
  | evaluate text parameters => simp only [Session.step, Session.evaluate, sameDetect]
  | contains text => simp only [Session.step, Session.contains, sameUse]
  | clear => simp only [Session.step, Session.clear, sameUse]
  | configure size => cases uses
  | environment raw => cases uses
  | compile handle text parameters => cases uses
  | execute handle parameters => cases uses

/-- A negative size is refused and leaves the session as it was. The environment asks for an accepted
size or is refused. While there is no cache and the environment is refused, every use of the cache
fails in the same way and builds none, whatever else is called in between. Settings that are
accepted, or the first use after the environment asks for an accepted size, put in an empty cache
with just this bound. Whatever was called before, a bounded cache has room for some entry and holds
no more entries than its bound. -/
theorem settings_keep_cache :
    (∀ (session : Session) (count : Int), count < 0 →
      session.step (.configure (some count)) =
        (.error (.setting (.negativeSize count)), session)) ∧
    (∀ session : Session,
      (∃ size, Settings.AsksFor session.environment size ∧ Settings.Accepts size) ∨
        ∃ error, Settings.Refuses session.environment error) ∧
    (∀ (session : Session) (error : SettingError), session.cache? = none →
      Settings.Refuses session.environment error →
      ∀ calls : List Call, (∀ call ∈ calls, call.reconfigures = false) →
        let later := session.afterCalls calls
        later.cache? = none ∧
        (∀ request : Request, request.usesCache = true →
          later.step request = (.error (.setting error), later)) ∧
        (∀ (set : RuleSet) name rule parameters, set.get name = .ok rule →
          set.evaluate later name parameters = (.error (.expression (.setting error)), later) ∧
          set.requiredParameters later name = (.error (.expression (.setting error)), later)) ∧
        ∀ set : RuleSet, set.items ≠ [] →
          set.validate later = (.error (.setting error), later)) ∧
    (∀ (session : Session) (size : Option Int), Settings.Accepts size →
      ∃ cache : IdentifierCache, cache.IsNewFor size ∧
        session.step (.configure size) = (.ok (.capacity cache.capacity), session.keep cache)) ∧
    (∀ (session : Session) (size : Option Int), session.cache? = none →
      Settings.AsksFor session.environment size → Settings.Accepts size →
      ∃ cache : IdentifierCache, cache.IsNewFor size ∧
        session.step .capacity = (.ok (.capacity cache.capacity), session.keep cache) ∧
        ∀ request : Request, request.usesCache = true →
          session.step request = (session.keep cache).step request) ∧
    ∀ (calls : List Call) cache, (start.afterCalls calls).cache? = some cache →
      ∀ limit, cache.capacity = some limit → 1 ≤ limit ∧ cache.entries.length ≤ limit := by
  refine ⟨?_, fun session => Settings.asksFor_or_refuses session.environment, ?_, ?_, ?_, ?_⟩
  · intro session count negative
    simp only [step, answer, configure, Settings.ofSize_of_negative negative]
    rfl
  · intro session error absent refused calls kept
    have stuck := StuckWith.afterCalls calls ⟨absent, refused⟩ kept
    exact ⟨stuck.absent, fun request => stuck.step,
      fun set name rule parameters found => stuck.withRule found parameters,
      fun set => stuck.validate⟩
  · intro session size accepts
    obtain ⟨settings, read⟩ := Settings.exists_ofSize.mpr accepts
    refine ⟨_, IdentifierCache.isNewFor_ofSettings read, ?_⟩
    simp only [step, answer, configure, read]
    rfl
  · intro session size absent asked accepts
    obtain ⟨settings, read⟩ := Settings.exists_ofSize.mpr accepts
    have demanded : session.demand = .ok (.ofSettings settings) := by
      rw [demand, absent, Settings.ofEnvironment_of_asksFor asked, read]
      rfl
    refine ⟨_, IdentifierCache.isNewFor_ofSettings read, ?_, fun request => step_of_demand demanded⟩
    simp only [step, answer, capacity, withCache_eq demanded]
    rfl
  · intro calls cache found
    exact (holds_start IdentifierCache.bounded_isInvariant).afterCalls
      IdentifierCache.bounded_isInvariant calls cache found

/-- Neither a refused size nor a malformed text hides that the environment is no number, and a number
in the environment gives an empty cache of this size. -/
theorem settings_keep_cache_unread :
    let session := start.setEnvironment (some " lots ")
    let later := session.afterCalls
      [.request (.configure (some (-1))), .request (.detect "1 ===")]
    let released := later.setEnvironment (some " 2 ")
    later.step (.evaluate "x ==" .empty) = (.error (.setting (.notInteger "lots")), later) ∧
      ∃ cache : IdentifierCache, cache.IsNewFor (some 2) ∧
        released.step .capacity = (.ok (.capacity cache.capacity), released.keep cache) := by
  intro session later released
  obtain ⟨-, -, fails, -, gives, -⟩ := settings_keep_cache
  have lots : Settings.environmentText (some " lots ") = "lots".toList := by decide
  have refused : Settings.Refuses (some " lots ") (.notInteger "lots") := by
    have unread := @Settings.Refuses.unread (some " lots ")
    rw [lots, String.ofList_toList] at unread
    exact unread (by decide) (by decide)
  have asked : Settings.AsksFor (some " 2 ") (some 2) := .size (by decide)
  have accepted : Settings.Accepts (some 2) := by
    intro count same
    cases same
    decide
  have kept : ∀ call ∈ [Call.request (.configure (some (-1))), .request (.detect "1 ===")],
      call.reconfigures = false := by
    decide
  obtain ⟨-, uses, -⟩ := fails session _ rfl refused _ kept
  obtain ⟨cache, new, first, -⟩ := gives released _ rfl asked accepted
  exact ⟨uses (.evaluate "x ==" .empty) rfl, cache, new, first⟩

end Session

end Predicates
