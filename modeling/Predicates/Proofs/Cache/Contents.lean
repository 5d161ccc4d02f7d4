/-
This file describes the entries of a cache by the requests that came before.
-/

import Predicates.Proofs.Cache.Lookup

namespace Predicates.IdentifierCache

variable {cache : IdentifierCache} {text : String} {used : List String}

/-- The last answer leaves this cache. -/
def after (cache : IdentifierCache) (requests : List Request) : IdentifierCache :=
  ((cache.answers requests).map Prod.snd).getLastD cache

/-- A request uses its text when names are found. Emptying the cache forgets all uses. -/
def recordUse (used : List String) : Request × Except SourceError Reply → List String
  | (.get text, .ok _) => used ++ [text]
  | (.get _, .error _) => used
  | (.contains _, _) => used
  | (.clear, _) => []

/-- The uses since the cache was last emptied stand in the order of the requests. -/
def uses (cache : IdentifierCache) (requests : List Request) : List String :=
  (requests.zip ((cache.answers requests).map Prod.fst)).foldl recordUse []

/-- Without a bound each text stays where it was first used. A bound keeps the texts with the
latest uses. -/
def expectedTexts (used : List String) : Option Nat → List String
  | none => firstSeen used
  | some limit => used.dedup.rtake limit

theorem after_cons (cache : IdentifierCache) (request : Request) (rest : List Request) :
    cache.after (request :: rest) = (cache.step request).2.after rest := by
  unfold after
  rw [answers, List.map_cons, List.getLastD_cons]

theorem after_append (first rest : List Request) :
    ∀ cache : IdentifierCache, cache.after (first ++ rest) = (cache.after first).after rest := by
  induction first with
  | nil => exact fun cache => rfl
  | cons request others inductionHypothesis =>
      intro cache
      rw [List.cons_append, after_cons, after_cons, inductionHypothesis]

theorem texts_touch (cache : IdentifierCache) (text : String) (names : List String) :
    (cache.touch text names).texts =
      match cache.capacity with
      | none => cache.texts
      | some _ => Recency.moveLast cache.texts text := by
  unfold touch texts
  cases bound : cache.capacity with
  | none => rfl
  | some limit => rw [texts_moveToEnd]

theorem texts_insert (cache : IdentifierCache) (text : String) (names : List String) :
    (cache.insert text names).texts =
      match cache.capacity with
      | none => Recency.moveLast cache.texts text
      | some limit => (Recency.moveLast cache.texts text).rtake limit := by
  unfold insert texts
  cases bound : cache.capacity with
  | none => rw [texts_moveToEnd]
  | some limit => rw [texts_trim, texts_moveToEnd]

/-- A text that is remembered moves to the end of a bounded cache. -/
theorem texts_touch_expected (expected : cache.texts = expectedTexts used cache.capacity)
    (member : text ∈ cache.texts) (names : List String) :
    (cache.touch text names).texts = expectedTexts (used ++ [text]) cache.capacity := by
  rw [texts_touch]
  rw [expected] at member ⊢
  cases bound : cache.capacity with
  | none =>
      rw [bound] at member
      have seen : text ∈ used := Recency.mem_firstSeen.mp member
      simp only [expectedTexts]
      rw [Recency.firstSeen_append_singleton, if_pos seen]
  | some limit =>
      rw [bound] at member
      have fits : (Recency.moveLast (used.dedup.rtake limit) text).length ≤ limit :=
        (Recency.length_moveLast_of_mem member).trans Recency.length_rtake_le
      simp only [expectedTexts]
      rw [Recency.dedup_append_singleton, ← Recency.rtake_moveLast used.nodup_dedup,
        Recency.rtake_of_length_le fits]

/-- A text that is not remembered comes last, and the oldest text makes room for it. -/
theorem texts_insert_expected (expected : cache.texts = expectedTexts used cache.capacity)
    (absent : text ∉ cache.texts) (names : List String) :
    (cache.insert text names).texts = expectedTexts (used ++ [text]) cache.capacity := by
  rw [texts_insert]
  rw [expected] at absent ⊢
  cases bound : cache.capacity with
  | none =>
      rw [bound] at absent
      have unseen : text ∉ used := fun member => absent (Recency.mem_firstSeen.mpr member)
      simp only [expectedTexts] at absent ⊢
      rw [Recency.firstSeen_append_singleton, if_neg unseen, Recency.moveLast_of_notMem absent]
  | some limit =>
      simp only [expectedTexts]
      rw [Recency.dedup_append_singleton, Recency.rtake_moveLast used.nodup_dedup]

/-- One request keeps the entries as its uses describe them. -/
theorem texts_step (expected : cache.texts = expectedTexts used cache.capacity)
    (request : Request) :
    (cache.step request).2.texts =
      expectedTexts (recordUse used (request, (cache.step request).1)) cache.capacity := by
  cases request with
  | get text =>
      rcases cache.get_cases text with ⟨names, found, answer⟩ | ⟨names, absent, _, answer⟩ |
        ⟨error, _, _, answer⟩
      · simp only [step, answer, Except.map, recordUse]
        exact texts_touch_expected expected (mem_texts_of_lookup? found) names
      · have scanned : ({ cache with scans := cache.scans + 1 } : IdentifierCache).texts =
            expectedTexts used cache.capacity := expected
        simp only [step, answer, Except.map, recordUse]
        exact texts_insert_expected scanned absent names
      · simp only [step, answer, Except.map, recordUse]
        exact expected
  | contains text => exact expected
  | clear =>
      simp only [step, clear, recordUse]
      cases cache.capacity <;> simp [texts, expectedTexts, firstSeen, List.rtake]

/-- A run of requests keeps the entries as all its uses describe them. -/
theorem texts_run (requests : List Request) :
    ∀ {cache : IdentifierCache} {used : List String},
      cache.texts = expectedTexts used cache.capacity →
        (cache.after requests).texts =
          expectedTexts
            ((requests.zip ((cache.answers requests).map Prod.fst)).foldl recordUse used)
            cache.capacity := by
  -- The earlier uses are arbitrary, because the induction goes on behind the first request.
  induction requests with
  | nil =>
      intro cache used expected
      exact expected
  | cons request rest inductionHypothesis =>
      intro cache used expected
      have next := texts_step expected request
      rw [← capacity_step cache request] at next
      rw [after_cons, inductionHypothesis next, capacity_step]
      rfl

/-- An empty cache remembers the uses of its requests. -/
theorem texts_after_empty (capacity : Option Nat) (requests : List Request) :
    ((empty capacity).after requests).texts =
      expectedTexts ((empty capacity).uses requests) capacity := by
  apply texts_run requests
  cases capacity <;> simp [empty, texts, expectedTexts, firstSeen, List.rtake]

theorem Faithful.step (faithful : cache.Faithful) (request : Request) :
    (cache.step request).2.Faithful := by
  cases request with
  | get text => exact faithful.get text
  | contains text => exact faithful
  | clear => exact Faithful.clear cache

theorem Faithful.after (faithful : cache.Faithful) (requests : List Request) :
    (cache.after requests).Faithful := by
  induction requests generalizing cache with
  | nil => exact faithful
  | cons request rest inductionHypothesis =>
      rw [after_cons]
      exact inductionHypothesis (faithful.step request)

/-- The entries are given texts in their order, and each holds the names that a scan of its text
finds. Every text gets the reply of its scan, whether it is among them or not. -/
structure Remembers (cache : IdentifierCache) (expected : List String) : Prop where
  texts : cache.texts = expected
  names : ∀ entry ∈ cache.entries, detectIdentifiers entry.1 = .ok entry.2
  reply : ∀ text, (cache.get text).1 = detectIdentifiers text
  contains : ∀ text, cache.contains text = true ↔ text ∈ expected

theorem Faithful.remembers {expected : List String} (faithful : cache.Faithful)
    (same : cache.texts = expected) : cache.Remembers expected where
  texts := same
  names := faithful
  reply := faithful.answer
  contains text := by rw [IdentifierCache.contains, same, List.contains_iff_mem]

/-- The entry of a text decides alone about the reply, and without an entry a scan does. Only then the
text is scanned. A failure changes no entry. -/
structure LooksUp (cache : IdentifierCache) (text : String) : Prop where
  hit : ∀ names, cache.lookup? text = some names →
    (cache.get text).1 = .ok names ∧ (cache.get text).2.scans = cache.scans
  miss : text ∉ cache.texts →
    (cache.get text).1 = (cache.scan text).1 ∧ (cache.get text).2.scans = (cache.scan text).2.scans
  failure : ∀ error, (cache.get text).1 = .error error →
    (cache.get text).2.entries = cache.entries

theorem looksUp (cache : IdentifierCache) (text : String) : cache.LooksUp text where
  hit names found := by
    simp only [get, found, scans_touch, and_self]
  miss absent := by
    have scanned : (cache.get text).2.scans = cache.scans + 1 := by
      rw [scans_get, if_neg absent]
    rcases cache.get_cases text with ⟨names, found, -⟩ | ⟨names, -, read, answer⟩ |
      ⟨error, -, read, answer⟩
    · exact absurd (mem_texts_of_lookup? found) absent
    · exact ⟨by rw [answer, scan, read], scanned⟩
    · exact ⟨by rw [answer, scan, read], scanned⟩
  failure _ failed := entries_get_error failed

/-- A bounded cache holds the texts with the latest uses, oldest first. A cache without a bound
holds all used texts, in the order of their first uses. A text is scanned exactly when it is not
among the entries, and a failure changes no entry. -/
theorem contents_of_uses :
    (∀ limit : Nat, 1 ≤ limit → ∃ fresh, ofCapacity (some limit) = .ok fresh ∧
      ∀ requests, (fresh.after requests).Remembers ((fresh.uses requests).dedup.rtake limit)) ∧
    (∀ capacity : Option Int, capacity = none ∨ capacity = some 0 →
      ∃ fresh, ofCapacity capacity = .ok fresh ∧
        ∀ requests, (fresh.after requests).Remembers (firstSeen (fresh.uses requests))) ∧
    ∀ (cache : IdentifierCache) (text : String),
      cache.LooksUp text ∧
      (cache.get text).2.scans = cache.scans + (if text ∈ cache.texts then 0 else 1) := by
  have remembers (capacity : Option Nat) (requests : List Request) :
      ((empty capacity).after requests).Remembers
        (expectedTexts ((empty capacity).uses requests) capacity) :=
    ((faithful_empty capacity).after requests).remembers (texts_after_empty capacity requests)
  refine ⟨?_, ?_, fun cache text => ⟨cache.looksUp text, scans_get cache text⟩⟩
  · intro limit positive
    refine ⟨empty (some limit), ?_, remembers (some limit)⟩
    have notNegative : ¬ (limit : Int) < 0 := by omega
    have notZero : ¬ (limit : Int) = 0 := by omega
    simp only [ofCapacity, if_neg notNegative, if_neg notZero, Int.toNat_natCast]
  · intro capacity unbounded
    refine ⟨empty none, ?_, remembers none⟩
    rcases unbounded with rfl | rfl <;> rfl

/-- The second lookup of the first text finds it, so the other text makes room for the third one. The
last text is scanned, but it has no names to remember. -/
theorem contents_of_uses_evicting :
    let requests : List Request := [.get "a", .get "!b", .get "a", .get "1", .get "1 =="]
    ∃ fresh, ofCapacity (some 2) = .ok fresh ∧
      fresh.uses requests = ["a", "!b", "a", "1"] ∧
      (fresh.after requests).Remembers ["a", "1"] ∧
      (fresh.after requests).entries = [("a", ["a"]), ("1", [])] ∧
      (fresh.after requests).scans = 4 ∧
      (fresh.after requests).LooksUp "1" := by
  intro requests
  obtain ⟨fresh, built, remembers⟩ := contents_of_uses.1 2 (by decide)
  have looksUp := contents_of_uses.2.2 (fresh.after requests) "1"
  obtain rfl : empty (some 2) = fresh := Except.ok.inj built
  have uses : (empty (some 2)).uses requests = ["a", "!b", "a", "1"] := by
    with_unfolding_all rfl
  have kept := remembers requests
  rw [uses] at kept
  exact ⟨empty (some 2), rfl, uses, kept, by with_unfolding_all rfl, by with_unfolding_all rfl,
    looksUp.1⟩

end Predicates.IdentifierCache
