/-
This file holds the state that evaluations share.
-/

import Predicates.IdentifierCache
import Predicates.Parameters

namespace Predicates

/-- A cache that was dropped is built again when it is next needed. Compiled expressions are kept
under names. -/
structure Session where
  environment : Option String
  cache? : Option IdentifierCache
  handles : Keyed fun handle : String × Compiled => handle.1

namespace Session

/-- A session starts with an empty cache without a bound. -/
def start : Session :=
  ⟨none, some (.empty none), .empty⟩

/-- A missing cache is built from the environment. -/
def demand (session : Session) : Except SettingError IdentifierCache :=
  match session.cache? with
  | some cache => .ok cache
  | none => (Settings.ofEnvironment session.environment).map .ofSettings

def keep (session : Session) (cache : IdentifierCache) : Session :=
  { session with cache? := some cache }

/-- Every use of the cache fails in the same way while it cannot be built. -/
def withCache {A : Type} (session : Session)
    (use : IdentifierCache → Except Failure A × IdentifierCache) : Except Failure A × Session :=
  match session.demand with
  | .error error => (.error (.setting error), session)
  | .ok cache =>
    let answer := use cache
    (answer.1, session.keep answer.2)

/-- New settings replace the cache by an empty one. -/
def configure (session : Session) (size : Option Int) :
    Except Failure (Option Nat) × Session :=
  match Settings.ofSize size with
  | .error error => (.error (.setting error), session)
  | .ok settings => (.ok settings.capacity, session.keep (.ofSettings settings))

/-- A change of the environment drops the cache. -/
def setEnvironment (session : Session) (raw : Option String) : Session :=
  { session with environment := raw, cache? := none }

def capacity (session : Session) : Except Failure (Option Nat) × Session :=
  session.withCache fun cache => (.ok cache.capacity, cache)

def detect (session : Session) (text : String) : Except Failure (List String) × Session :=
  session.withCache fun cache =>
    let answer := cache.get text
    (answer.1.mapError .source, answer.2)

def contains (session : Session) (text : String) : Except Failure Bool × Session :=
  session.withCache fun cache => (.ok (cache.contains text), cache)

def clear (session : Session) : Except Failure Unit × Session :=
  session.withCache fun cache => (.ok (), cache.clear)

/-- Only the parameters that the expression refers to are used. -/
def evaluate (session : Session) (text : String) (parameters : Parameters) :
    Except Failure Bool × Session :=
  match session.detect text with
  | (.error failure, after) => (.error failure, after)
  | (.ok names, after) => (evaluateBound text (parameters.restrict names), after)

/-- A new handle replaces the one of the same name. -/
def store (session : Session) (handle : String) (compiled : Compiled) : Session :=
  { session with handles := session.handles.put (handle, compiled) }

def compile (session : Session) (handle text : String) (parameters : Parameters) :
    Except Failure Compiled × Session :=
  match compileFor text parameters with
  | .error failure => (.error failure, session)
  | .ok compiled => (.ok compiled, session.store handle compiled)

def execute (session : Session) (handle : String) (parameters : Parameters) :
    Except Failure Bool :=
  match session.handles.find? handle with
  | some (_, compiled) => compiled.executeByName parameters
  | none => .error (.unknownHandle handle)

inductive Request where
  | configure (size : Option Int)
  | environment (raw : Option String)
  | capacity
  | detect (text : String)
  | evaluate (text : String) (parameters : Parameters)
  | compile (handle text : String) (parameters : Parameters)
  | execute (handle : String) (parameters : Parameters)
  | contains (text : String)
  | clear

inductive Reply where
  | capacity (capacity : Option Nat)
  | names (names : List String)
  | truth (value : Bool)
  | compiled (compiled : Compiled)
  | done

def answer {A : Type} (outcome : Except Failure A × Session) (reply : A → Reply) :
    Except Failure Reply × Session :=
  (outcome.1.map reply, outcome.2)

def step (session : Session) : Request → Except Failure Reply × Session
  | .configure size => answer (session.configure size) .capacity
  | .environment raw => (.ok .done, session.setEnvironment raw)
  | .capacity => answer session.capacity .capacity
  | .detect text => answer (session.detect text) .names
  | .evaluate text parameters => answer (session.evaluate text parameters) .truth
  | .compile handle text parameters => answer (session.compile handle text parameters) .compiled
  | .execute handle parameters => ((session.execute handle parameters).map .truth, session)
  | .contains text => answer (session.contains text) .truth
  | .clear => answer session.clear fun _ => .done

/-- This function answers requests one after the other and keeps the session after each. -/
def answers (session : Session) : List Request → List (Except Failure Reply × Session)
  | [] => []
  | request :: rest =>
    let outcome := session.step request
    outcome :: outcome.2.answers rest

end Session

end Predicates
