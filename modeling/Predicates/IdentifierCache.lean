/-
This file holds the cache that remembers the names of each expression.
-/

import Predicates.Expression.Identifiers
import Predicates.Settings

namespace Predicates

/-- The entries stand in the order in which they would be dropped. The scans count how often the
names of a text were not remembered and had to be read from it. -/
structure IdentifierCache where
  capacity : Option Nat
  entries : List (String × List String)
  scans : Nat

namespace IdentifierCache

def empty (capacity : Option Nat) : IdentifierCache :=
  ⟨capacity, [], 0⟩

def ofSettings (settings : Settings) : IdentifierCache :=
  empty settings.capacity

/-- The capacity zero means that there is no bound. -/
def ofCapacity : Option Int → Except SettingError IdentifierCache
  | none => .ok (empty none)
  | some capacity =>
    if capacity < 0 then .error (.negativeCapacity capacity)
    else if capacity = 0 then .ok (empty none)
    else .ok (empty (some capacity.toNat))

def texts (cache : IdentifierCache) : List String :=
  cache.entries.map Prod.fst

def contains (cache : IdentifierCache) (text : String) : Bool :=
  cache.texts.contains text

def lookup? (cache : IdentifierCache) (text : String) : Option (List String) :=
  cache.entries.lookup text

/-- The entry of a text is moved to the end. -/
def moveToEnd (entries : List (String × List String)) (text : String) (names : List String) :
    List (String × List String) :=
  entries.filter (fun entry => entry.1 ≠ text) ++ [(text, names)]

/-- A bounded cache keeps its entries in the order of their use. -/
def touch (cache : IdentifierCache) (text : String) (names : List String) : IdentifierCache :=
  match cache.capacity with
  | none => cache
  | some _ => { cache with entries := moveToEnd cache.entries text names }

/-- The oldest entries are dropped one after the other until the others have room. -/
def trim (limit : Nat) : List (String × List String) → List (String × List String)
  | [] => []
  | oldest :: rest => if limit < rest.length + 1 then trim limit rest else oldest :: rest

def insert (cache : IdentifierCache) (text : String) (names : List String) : IdentifierCache :=
  let entries := moveToEnd cache.entries text names
  match cache.capacity with
  | none => { cache with entries := entries }
  | some limit => { cache with entries := trim limit entries }

/-- Each scan of a text is counted, whether it finds names or fails. -/
def scan (cache : IdentifierCache) (text : String) :
    Except SourceError (List String) × IdentifierCache :=
  (detectIdentifiers text, { cache with scans := cache.scans + 1 })

/-- A text that is not remembered is scanned, and only names that were found are kept. -/
def get (cache : IdentifierCache) (text : String) :
    Except SourceError (List String) × IdentifierCache :=
  match cache.lookup? text with
  | some names => (.ok names, cache.touch text names)
  | none =>
    match cache.scan text with
    | (.ok names, scanned) => (.ok names, scanned.insert text names)
    | (.error error, scanned) => (.error error, scanned)

def clear (cache : IdentifierCache) : IdentifierCache :=
  { cache with entries := [] }

/-- A cache can be asked for names, asked whether it remembers a text, and emptied. -/
inductive Request where
  | get (text : String)
  | contains (text : String)
  | clear

inductive Reply where
  | names (names : List String)
  | truth (value : Bool)
  | done

def step (cache : IdentifierCache) : Request → Except SourceError Reply × IdentifierCache
  | .get text =>
    let answer := cache.get text
    (answer.1.map .names, answer.2)
  | .contains text => (.ok (.truth (cache.contains text)), cache)
  | .clear => (.ok .done, cache.clear)

/-- This function answers requests one after the other and keeps the cache after each. -/
def answers (cache : IdentifierCache) :
    List Request → List (Except SourceError Reply × IdentifierCache)
  | [] => []
  | request :: rest =>
    let answer := cache.step request
    answer :: answer.2.answers rest

end IdentifierCache

end Predicates
