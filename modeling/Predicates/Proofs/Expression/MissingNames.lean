/-
This file shows that the check of an expression reports the first of its names that has no slot, and
never passes such a name over.
-/

import Predicates.Proofs.Binding.Lookup
import Predicates.Proofs.Binding.SlotChoice

namespace Predicates

/-- No slot declares the name. -/
def Slot.lacks (slots : List Slot) (name : String) : Bool :=
  name ∉ slots.map Slot.name

theorem Slot.kindOf?_eq_none {slots : List Slot} {name : String} :
    kindOf? slots name = none ↔ lacks slots name = true := by
  rw [lacks, decide_eq_true_eq, ← position?_eq_none, kindOf?]
  constructor
  · intro unknown
    cases placed : position? name slots with
    | none => rfl
    | some position =>
        obtain ⟨slot, found, -⟩ := position?_eq_some placed
        rw [placed, Option.bind_some, found] at unknown
        cases unknown
  · intro absent
    rw [absent, Option.bind_none]

/-- The first of the names that are sought does not change when later repetitions are left out. -/
theorem find?_firstSeen (sought : String → Bool) (names : List String) :
    (firstSeen names).find? sought = names.find? sought := by
  induction names with
  | nil => rfl
  | cons name rest inductionHypothesis =>
      rw [firstSeen]
      by_cases wanted : sought name = true
      · rw [List.find?_cons_of_pos wanted, List.find?_cons_of_pos wanted]
      · rw [List.find?_cons_of_neg wanted, List.find?_cons_of_neg wanted, List.find?_filter,
          ← inductionHypothesis]
        congr 1
        funext other
        by_cases same : other = name
        · simp [same, wanted]
        · simp [same]

namespace Expression

variable {slots : List Slot} {connective : Connective} {operands : List Expression}
variable {expression : Expression} {name : String}

/-- Nothing is missing from the slots of an expression that passes the check. -/
theorem find?_lacks_of_check {kind : Kind} (checked : expression.check slots = .ok kind) :
    expression.occurrences.find? (Slot.lacks slots) = none := by
  rw [List.find?_eq_none]
  intro name occurs missing
  obtain ⟨declared, slotted⟩ := kindOf?_of_check checked occurs
  rw [Slot.kindOf?_eq_none.mpr missing] at slotted
  cases slotted

/-- Behind parts that pass the check, the first missing name is the first one of the part that fails. -/
theorem find?_lacks_append {kind : Kind} (checked : expression.check slots = .ok kind)
    (behind : List String) :
    (expression.occurrences ++ behind).find? (Slot.lacks slots) =
      behind.find? (Slot.lacks slots) := by
  rw [List.find?_append, find?_lacks_of_check checked, Option.none_or]

theorem find?_lacks_of_checkOperands
    (each : ∀ operand ∈ operands, operand.check slots = .error (.unresolved name) →
      operand.occurrences.find? (Slot.lacks slots) = some name)
    (failed : checkOperands slots connective operands = .error (.unresolved name)) :
    (listOccurrences operands).find? (Slot.lacks slots) = some name := by
  induction operands with
  | nil => cases failed
  | cons first rest inductionHypothesis =>
      rw [listOccurrences]
      rcases Outcome.bind_eq_error.mp failed with firstFailed | ⟨kind, checked, failed⟩
      · rw [List.find?_append, each first List.mem_cons_self firstFailed, Option.some_or]
      · rcases Outcome.bind_eq_error.mp failed with refused | ⟨-, -, restFailed⟩
        · cases (requireCondition_eq_error.mp refused).2
        · rw [find?_lacks_append checked]
          exact inductionHypothesis
            (fun operand member => each operand (List.mem_cons_of_mem first member)) restFailed

/-- A check that fails for a name without a slot has met no such name before. -/
theorem find?_lacks_of_unresolved (failed : expression.check slots = .error (.unresolved name)) :
    expression.occurrences.find? (Slot.lacks slots) = some name := by
  induction expression with
  | literal value => cases failed
  | identifier other =>
      rw [check] at failed
      cases unknown : Slot.kindOf? slots other with
      | some kind =>
          rw [unknown] at failed
          cases failed
      | none =>
          rw [unknown] at failed
          cases failed
          rw [occurrences, List.find?_cons_of_pos (Slot.kindOf?_eq_none.mp unknown)]
  | comparison operator left right leftHypothesis rightHypothesis =>
      rw [occurrences]
      rcases Outcome.bind_eq_error.mp failed with leftFailed | ⟨kind, leftChecked, failed⟩
      · rw [List.find?_append, leftHypothesis leftFailed, Option.some_or]
      · rw [find?_lacks_append leftChecked]
        rcases Outcome.bind_eq_error.mp failed with rightFailed | ⟨-, -, impossible⟩
        · exact rightHypothesis rightFailed
        · cases impossible
  | logical connective operands inductionHypothesis =>
      rcases Outcome.bind_eq_error.mp failed with chainFailed | ⟨-, -, impossible⟩
      · exact find?_lacks_of_checkOperands inductionHypothesis chainFailed
      · cases impossible
  | unary operator operand inductionHypothesis =>
      rw [occurrences]
      cases operator with
      | not =>
          rcases Outcome.bind_eq_error.mp failed with operandFailed | ⟨kind, -, failed⟩
          · exact inductionHypothesis operandFailed
          · rcases Outcome.bind_eq_error.mp failed with refused | ⟨-, -, impossible⟩
            · cases (requireCondition_eq_error.mp refused).2
            · cases impossible
      | minus =>
          rcases Outcome.bind_eq_error.mp failed with operandFailed | ⟨kind, -, refused⟩
          · exact inductionHypothesis operandFailed
          · cases (negationKind_eq_error.mp refused).2

end Expression

/-- A text that can be read but does not compile fails in the check, or its kind is no condition. -/
theorem compile_eq_error {text : String} {slots : List Slot} {root : Expression}
    {error : CompileError} (parsed : parse text = .ok root)
    (failed : compile text slots = .error error) :
    (∃ fault, error = .typing fault ∧ root.check slots = .error fault) ∨
      ∃ kind, error = .typing (.resultNotCondition kind) ∧ root.check slots = .ok kind := by
  obtain ⟨tree, read, failed⟩ := (Outcome.bind_eq_error.mp failed).resolve_left fun unread => by
    rw [parsed] at unread
    cases unread
  obtain rfl : root = tree := Except.ok.inj (parsed.symm.trans (Outcome.mapError_eq_ok.mp read))
  rcases Outcome.bind_eq_error.mp failed with checkFailed | ⟨kind, checked, refused⟩
  · obtain ⟨fault, checkFailed, same⟩ := Outcome.mapError_eq_error.mp checkFailed
    exact Or.inl ⟨fault, same.symm, checkFailed⟩
  · split at refused
    · cases refused
    · cases refused
      exact Or.inr ⟨kind, rfl, Outcome.mapError_eq_ok.mp checked⟩

/-- A text with a name that has no slot fails the check. When the check reports such a name, it is the
first of the names of the text that has no slot, so it reports none when all names have slots. -/
theorem missing_names_reported {text : String} {root : Expression} (parsed : parse text = .ok root)
    (slots : List Slot) :
    ∃ names, detectIdentifiers text = .ok names ∧
      ((∃ name ∈ names, Slot.lacks slots name = true) →
        ∃ error, compile text slots = .error (.typing error)) ∧
      (∀ name, compile text slots = .error (.typing (.unresolved name)) →
        names.find? (Slot.lacks slots) = some name) ∧
      ((∀ name ∈ names, Slot.lacks slots name = false) →
        ∀ name, compile text slots ≠ .error (.typing (.unresolved name))) := by
  have first : ∀ name, compile text slots = .error (.typing (.unresolved name)) →
      root.identifiers.find? (Slot.lacks slots) = some name := by
    intro name failed
    rw [Expression.identifiers_eq, find?_firstSeen]
    rcases compile_eq_error parsed failed with ⟨fault, same, checkFailed⟩ | ⟨kind, same, -⟩
    · cases same
      exact Expression.find?_lacks_of_unresolved checkFailed
    · cases same
  refine ⟨root.identifiers, by rw [detectIdentifiers, parsed]; rfl, ?_, first, ?_⟩
  · rintro ⟨name, member, missing⟩
    cases compiles : compile text slots with
    | error error =>
        rcases compile_eq_error parsed compiles with ⟨fault, rfl, -⟩ | ⟨kind, rfl, -⟩
        · exact ⟨fault, rfl⟩
        · exact ⟨_, rfl⟩
    | ok compiled =>
        obtain ⟨-, kind, checked, -⟩ := compile_eq_ok compiles
        have complete := Expression.find?_lacks_of_check checked
        have same : compiled.root = root :=
          Except.ok.inj ((parse_of_compile compiles).symm.trans parsed)
        rw [same, ← find?_firstSeen, ← Expression.identifiers_eq] at complete
        exact absurd missing (List.find?_eq_none.mp complete name member)
  · intro present name failed
    have missing := List.find?_some (first name failed)
    rw [present name (List.mem_of_find?_eq_some (first name failed))] at missing
    cases missing

/-- Two names have no slots, and the one that stands first in the text is reported. -/
theorem missing_names_reported_second : ∃ root names,
    parse "a < 1 && (c == b || d)" = .ok root ∧
      detectIdentifiers "a < 1 && (c == b || d)" = .ok names ∧
      compile "a < 1 && (c == b || d)" [⟨"b", .int⟩, ⟨"a", .int⟩] =
        .error (.typing (.unresolved "c")) ∧
      names.find? (Slot.lacks [⟨"b", .int⟩, ⟨"a", .int⟩]) = some "c" := by
  have failed : compile "a < 1 && (c == b || d)" [⟨"b", .int⟩, ⟨"a", .int⟩] =
      .error (.typing (.unresolved "c")) := by
    with_unfolding_all rfl
  have detected : detectIdentifiers "a < 1 && (c == b || d)" = .ok ["a", "c", "b", "d"] := by
    with_unfolding_all rfl
  obtain ⟨root, parsed, -⟩ := Outcome.map_eq_ok.mp detected
  obtain ⟨names, found, -, first, -⟩ :=
    missing_names_reported parsed [⟨"b", .int⟩, ⟨"a", .int⟩]
  exact ⟨root, names, parsed, found, failed, first "c" failed⟩

end Predicates
