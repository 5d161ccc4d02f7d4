/-
This file shows what one request does to a cache.
-/

import Predicates.Proofs.Association
import Predicates.Proofs.Cache.Recency
import Predicates.IdentifierCache

namespace Predicates.IdentifierCache

variable {cache : IdentifierCache} {text : String} {names : List String}

theorem texts_moveToEnd (entries : List (String × List String)) (text : String)
    (names : List String) :
    (moveToEnd entries text names).map Prod.fst =
      Recency.moveLast (entries.map Prod.fst) text := by
  unfold moveToEnd Recency.moveLast
  rw [List.map_append, List.filter_map]
  rfl

/-- All entries that have room are kept. -/
theorem trim_eq (limit : Nat) (entries : List (String × List String)) :
    trim limit entries = entries.drop (entries.length - limit) := by
  induction entries with
  | nil => rw [trim, List.drop_nil]
  | cons oldest rest inductionHypothesis =>
      rw [trim, List.length_cons]
      split
      · rename_i full
        rw [inductionHypothesis, Nat.sub_add_comm (Nat.le_of_lt_succ full), List.drop_succ_cons]
      · rename_i room
        rw [Nat.sub_eq_zero_of_le (Nat.le_of_not_lt room), List.drop_zero]

theorem texts_trim (limit : Nat) (entries : List (String × List String)) :
    (trim limit entries).map Prod.fst = (entries.map Prod.fst).rtake limit := by
  unfold List.rtake
  rw [trim_eq, List.map_drop, List.length_map]

theorem lookup?_eq_none : cache.lookup? text = none ↔ text ∉ cache.texts := by
  unfold lookup? texts
  rw [List.lookup_eq_none_iff]
  constructor
  · intro absent member
    obtain ⟨entry, found, rfl⟩ := List.mem_map.mp member
    simpa using absent entry found
  · intro absent entry found
    by_contra equal
    have same : text = entry.1 := by simpa using equal
    exact absent (List.mem_map.mpr ⟨entry, found, same.symm⟩)

/-- A lookup finds an entry of the cache. -/
theorem mem_of_lookup? (found : cache.lookup? text = some names) :
    (text, names) ∈ cache.entries :=
  Association.mem_of_lookup found

theorem mem_texts_of_lookup? (found : cache.lookup? text = some names) : text ∈ cache.texts :=
  List.mem_map.mpr ⟨(text, names), mem_of_lookup? found, rfl⟩

/-- A text is remembered, or its names are found, or it has no names. -/
theorem get_cases (cache : IdentifierCache) (text : String) :
    (∃ names, cache.lookup? text = some names ∧
      cache.get text = (.ok names, cache.touch text names)) ∨
    (∃ names, text ∉ cache.texts ∧ detectIdentifiers text = .ok names ∧
      cache.get text = (.ok names, { cache with scans := cache.scans + 1 }.insert text names)) ∨
    (∃ error, text ∉ cache.texts ∧ detectIdentifiers text = .error error ∧
      cache.get text = (.error error, { cache with scans := cache.scans + 1 })) := by
  cases found : cache.lookup? text with
  | some names =>
      left
      exact ⟨names, rfl, by simp only [get, found]⟩
  | none =>
      right
      have absent : text ∉ cache.texts := lookup?_eq_none.mp found
      cases scanned : detectIdentifiers text with
      | ok names =>
          left
          exact ⟨names, absent, rfl, by simp only [get, scan, found, scanned]⟩
      | error error =>
          right
          exact ⟨error, absent, rfl, by simp only [get, scan, found, scanned]⟩

@[simp] theorem scans_touch (cache : IdentifierCache) (text : String) (names : List String) :
    (cache.touch text names).scans = cache.scans := by
  unfold touch
  split <;> rfl

@[simp] theorem scans_insert (cache : IdentifierCache) (text : String) (names : List String) :
    (cache.insert text names).scans = cache.scans := by
  unfold insert
  dsimp only
  split <;> rfl

@[simp] theorem capacity_touch (cache : IdentifierCache) (text : String) (names : List String) :
    (cache.touch text names).capacity = cache.capacity := by
  unfold touch
  split <;> rfl

@[simp] theorem capacity_insert (cache : IdentifierCache) (text : String) (names : List String) :
    (cache.insert text names).capacity = cache.capacity := by
  unfold insert
  dsimp only
  split <;> rfl

/-- No request changes the capacity. -/
theorem capacity_step (cache : IdentifierCache) (request : Request) :
    (cache.step request).2.capacity = cache.capacity := by
  cases request with
  | get text =>
      rcases cache.get_cases text with ⟨names, _, answer⟩ | ⟨names, _, _, answer⟩ |
        ⟨error, _, _, answer⟩ <;> simp [step, answer]
  | contains text => rfl
  | clear => rfl

/-- A text is read exactly when it is not among the entries. -/
theorem scans_get (cache : IdentifierCache) (text : String) :
    (cache.get text).2.scans = cache.scans + if text ∈ cache.texts then 0 else 1 := by
  rcases cache.get_cases text with ⟨names, found, answer⟩ | ⟨names, absent, _, answer⟩ |
    ⟨error, absent, _, answer⟩
  · rw [answer, if_pos (mem_texts_of_lookup? found), scans_touch, Nat.add_zero]
  · rw [answer, if_neg absent, scans_insert]
  · rw [answer, if_neg absent]

/-- A failure leaves the entries and their order alone. -/
theorem entries_get_error {error : SourceError} (failed : (cache.get text).1 = .error error) :
    (cache.get text).2.entries = cache.entries := by
  rcases cache.get_cases text with ⟨names, _, answer⟩ | ⟨names, _, _, answer⟩ |
    ⟨error, _, _, answer⟩
  · rw [answer] at failed
    cases failed
  · rw [answer] at failed
    cases failed
  · rw [answer]

/-- A property is an invariant when new caches have it and every use of a cache keeps it. -/
structure IsInvariant (property : IdentifierCache → Prop) : Prop where
  new : ∀ settings, property (ofSettings settings)
  get : ∀ cache text, property cache → property (cache.get text).2
  clear : ∀ cache, property cache → property cache.clear

/-- Each entry holds the names of its text. -/
def Faithful (cache : IdentifierCache) : Prop :=
  ∀ entry ∈ cache.entries, detectIdentifiers entry.1 = .ok entry.2

theorem faithful_empty (capacity : Option Nat) : (empty capacity).Faithful := by
  intro entry member
  cases member

theorem Faithful.clear (cache : IdentifierCache) : cache.clear.Faithful := by
  intro entry member
  cases member

/-- An entry that was moved to the end is new, or it was there before. -/
theorem mem_moveToEnd {entries : List (String × List String)} {entry : String × List String}
    (member : entry ∈ moveToEnd entries text names) : entry ∈ entries ∨ entry = (text, names) := by
  rcases List.mem_append.mp member with old | new
  · exact Or.inl (List.mem_filter.mp old).1
  · exact Or.inr (List.mem_singleton.mp new)

theorem Faithful.moveToEnd (faithful : cache.Faithful)
    (scanned : detectIdentifiers text = .ok names) :
    ∀ entry ∈ IdentifierCache.moveToEnd cache.entries text names,
      detectIdentifiers entry.1 = .ok entry.2 := by
  intro entry member
  rcases mem_moveToEnd member with old | rfl
  · exact faithful entry old
  · exact scanned

theorem Faithful.touch (faithful : cache.Faithful)
    (scanned : detectIdentifiers text = .ok names) : (cache.touch text names).Faithful := by
  unfold IdentifierCache.touch
  cases cache.capacity with
  | none => exact faithful
  | some limit => exact faithful.moveToEnd scanned

theorem Faithful.insert (faithful : cache.Faithful)
    (scanned : detectIdentifiers text = .ok names) : (cache.insert text names).Faithful := by
  unfold IdentifierCache.insert
  cases cache.capacity with
  | none => exact faithful.moveToEnd scanned
  | some limit =>
      intro entry member
      have kept : entry ∈ trim limit (IdentifierCache.moveToEnd cache.entries text names) := member
      rw [trim_eq] at kept
      exact faithful.moveToEnd scanned entry (List.mem_of_mem_drop kept)

/-- A faithful cache answers as the text itself does. -/
theorem Faithful.answer (faithful : cache.Faithful) (text : String) :
    (cache.get text).1 = detectIdentifiers text := by
  rcases cache.get_cases text with ⟨names, found, answer⟩ | ⟨names, _, scanned, answer⟩ |
    ⟨error, _, scanned, answer⟩
  · rw [answer]
    exact (faithful (text, names) (mem_of_lookup? found)).symm
  · rw [answer, scanned]
  · rw [answer, scanned]

/-- A lookup keeps the cache faithful, whether it finds the text or not. -/
theorem Faithful.get (faithful : cache.Faithful) (text : String) :
    (cache.get text).2.Faithful := by
  rcases cache.get_cases text with ⟨names, found, answer⟩ | ⟨names, _, scanned, answer⟩ |
    ⟨error, _, _, answer⟩
  · rw [answer]
    exact faithful.touch (faithful (text, names) (mem_of_lookup? found))
  · have same : ({ cache with scans := cache.scans + 1 } : IdentifierCache).Faithful := faithful
    rw [answer]
    exact same.insert scanned
  · rw [answer]
    exact faithful

theorem faithful_isInvariant : IsInvariant Faithful where
  new settings := faithful_empty settings.capacity
  get _ text faithful := faithful.get text
  clear cache _ := Faithful.clear cache

end Predicates.IdentifierCache
