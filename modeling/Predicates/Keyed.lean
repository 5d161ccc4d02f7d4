/-
This file holds lists whose items have distinct keys.
-/

namespace Predicates

/-- The items stand in the order in which their keys came. -/
structure Keyed {A K : Type} (key : A → K) where
  items : List A
  distinct : (items.map key).Nodup

namespace Keyed

variable {A K : Type} [DecidableEq K] {key : A → K}

def empty : Keyed key :=
  ⟨[], List.nodup_nil⟩

def keys (keyed : Keyed key) : List K :=
  keyed.items.map key

def size (keyed : Keyed key) : Nat :=
  keyed.items.length

def contains (keyed : Keyed key) (wanted : K) : Bool :=
  keyed.keys.contains wanted

def find? (keyed : Keyed key) (wanted : K) : Option A :=
  keyed.items.find? fun item => key item = wanted

/-- An item takes the place of the one with its key, or it comes last. -/
def putInto (key : A → K) (item : A) : List A → List A
  | [] => [item]
  | old :: rest => if key old = key item then item :: rest else old :: putInto key item rest

theorem map_putInto (item : A) (items : List A) :
    (putInto key item items).map key =
      if key item ∈ items.map key then items.map key else items.map key ++ [key item] := by
  induction items with
  | nil => simp [putInto]
  | cons old rest inductionHypothesis =>
    by_cases same : key old = key item
    · simp [putInto, same]
    · have other : key item ≠ key old := fun equal => same equal.symm
      simp only [putInto, if_neg same, List.map_cons, inductionHypothesis, List.mem_cons, other,
        false_or, List.cons_append]
      split <;> rfl

def put (keyed : Keyed key) (item : A) : Keyed key where
  items := putInto key item keyed.items
  distinct := by
    rw [map_putInto]
    split
    · exact keyed.distinct
    · rename_i fresh
      refine List.nodup_append.mpr ⟨keyed.distinct, by simp, ?_⟩
      intro left leftIn right rightIn same
      rw [List.mem_singleton.mp rightIn] at same
      exact fresh (same ▸ leftIn)

/-- Later items take the places of earlier ones with their keys. -/
def ofList (items : List A) : Keyed key :=
  items.foldl put empty

end Keyed

end Predicates
