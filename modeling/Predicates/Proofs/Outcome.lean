/-
This file takes apart outcomes that were built from earlier outcomes, and compares the outcomes of
two runs.
-/

namespace Predicates.Outcome

variable {E F A B : Type} {outcome : Except E A}

/-- A mapped outcome succeeds when the outcome does. -/
theorem map_eq_ok {f : A → B} {value : B} :
    outcome.map f = .ok value ↔ ∃ old, outcome = .ok old ∧ f old = value := by
  cases outcome <;> simp [Except.map]

theorem exists_map_eq_ok {f : A → B} :
    (∃ value, outcome.map f = .ok value) ↔ ∃ value, outcome = .ok value := by
  cases outcome <;> simp [Except.map]

/-- A mapped outcome fails as the outcome does. -/
theorem map_eq_error {f : A → B} {error : E} :
    outcome.map f = .error error ↔ outcome = .error error := by
  cases outcome <;> simp [Except.map]

theorem mapError_ok (f : E → F) (value : A) : (Except.ok value).mapError f = .ok value :=
  rfl

theorem mapError_error (f : E → F) (error : E) :
    (Except.error error : Except E A).mapError f = .error (f error) :=
  rfl

/-- Renaming the errors leaves the values alone. -/
theorem mapError_eq_ok {f : E → F} {value : A} :
    outcome.mapError f = .ok value ↔ outcome = .ok value := by
  cases outcome <;> simp [mapError_ok, mapError_error]

theorem mapError_eq_error {f : E → F} {error : F} :
    outcome.mapError f = .error error ↔ ∃ old, outcome = .error old ∧ f old = error := by
  cases outcome <;> simp [mapError_ok, mapError_error]

/-- Two steps succeed when both do. -/
theorem bind_eq_ok {f : A → Except E B} {value : B} :
    outcome >>= f = .ok value ↔ ∃ old, outcome = .ok old ∧ f old = .ok value := by
  cases outcome <;> simp [bind, Except.bind]

/-- Two steps fail when the first does, or when the second does after it. -/
theorem bind_eq_error {f : A → Except E B} {error : E} :
    outcome >>= f = .error error ↔
      outcome = .error error ∨ ∃ old, outcome = .ok old ∧ f old = .error error := by
  cases outcome <;> simp [bind, Except.bind]

section Alike

variable {G H C D : Type} {faults : E → F → Prop} {values : A → B → Prop}

/-- Two outcomes are alike when both fail for related reasons or both succeed with related
values. -/
inductive Alike (faults : E → F → Prop) (values : A → B → Prop) :
    Except E A → Except F B → Prop where
  | error {left : E} {right : F} (related : faults left right) :
      Alike faults values (.error left) (.error right)
  | ok {left : A} {right : B} (related : values left right) :
      Alike faults values (.ok left) (.ok right)

namespace Alike

variable {left : Except E A} {right : Except F B}

theorem refl {faults : E → E → Prop} (same : ∀ error, faults error error) (outcome : Except E A) :
    Alike faults Eq outcome outcome := by
  cases outcome with
  | error error => exact .error (same error)
  | ok value => exact .ok rfl

/-- An outcome like a value is this value when values are related to themselves only. -/
theorem eq_ok {faults : E → F → Prop} {value : A} {right : Except F A}
    (alike : Alike faults Eq (.ok value) right) : right = .ok value := by
  cases alike with
  | ok same => rw [same]

/-- Outcomes stay alike when the next step, if there is one, leaves them alike. -/
theorem bind {results : C → D → Prop} {f : A → Except E C} {g : B → Except F D}
    (alike : Alike faults values left right)
    (next : ∀ old new, left = .ok old → values old new → Alike faults results (f old) (g new)) :
    Alike faults results (left >>= f) (right >>= g) := by
  cases alike with
  | error related => exact .error related
  | ok related => exact next _ _ rfl related

theorem map {results : C → D → Prop} {f : A → C} {g : B → D}
    (alike : Alike faults values left right)
    (next : ∀ old new, values old new → results (f old) (g new)) :
    Alike faults results (left.map f) (right.map g) := by
  cases alike with
  | error related => exact .error related
  | ok related => exact .ok (next _ _ related)

theorem mapError {others : G → H → Prop} {f : E → G} {g : F → H}
    (alike : Alike faults values left right)
    (next : ∀ old new, faults old new → others (f old) (g new)) :
    Alike others values (left.mapError f) (right.mapError g) := by
  cases alike with
  | error related => exact .error (next _ _ related)
  | ok related => exact .ok related

end Alike

end Alike

end Predicates.Outcome
