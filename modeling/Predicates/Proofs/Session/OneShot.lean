/-
This file shows that an evaluation in one step agrees with compiling first and running by name.
-/

import Predicates.Proofs.Binding.Answer
import Predicates.Proofs.Cache.Recency
import Predicates.Proofs.Session.Transparency

namespace Predicates

/-- A single evaluation looks up the names of a text, and only these keep their values. -/
theorem evaluateDirectly_eq_answerOver {text : String} {parameters : Parameters}
    (bound : ∀ names, detectIdentifiers text = .ok names →
      ∀ name ∈ names, parameters.contains name = true) :
    evaluateDirectly text parameters =
      (parse text).mapError .source >>= fun root => root.answerOver parameters := by
  unfold evaluateDirectly detectDirectly
  unfold detectIdentifiers at bound ⊢
  cases parsed : parse text with
  | error error => rfl
  | ok root =>
      rw [parsed] at bound
      simp only [Except.map, Outcome.mapError_ok, bind, Except.bind]
      rw [evaluateBound_eq_answerOver, parsed]
      apply Expression.answerOver_congr
      intro name occurs
      have member : name ∈ root.identifiers := Expression.mem_identifiers.mpr occurs
      exact Parameters.value?_restrict_of_contains member
        (bound root.identifiers rfl name member)

namespace Session

/-- An expression that was compiled under a handle is run by this handle. -/
theorem compile_execute (session : Session) (handle text : String) (parameters : Parameters) :
    ((session.compile handle text parameters).1 >>= fun _ =>
        (session.compile handle text parameters).2.execute handle parameters) =
      compileFor text parameters >>= fun compiled => compiled.executeByName parameters := by
  unfold compile
  cases compileFor text parameters with
  | error failure => rfl
  | ok compiled =>
      have stored : (session.store handle compiled).handles.find? handle =
        some (handle, compiled) := by
        unfold store
        rw [Keyed.find?_put, if_pos rfl]
      simp only [bind, Except.bind, execute, stored]

/-- Whatever was requested before, an evaluation of a text has the outcome of compiling it for all
parameters, in whatever order they stand, and of running it by name. -/
theorem evaluate_eq_compile_execute (before : List Request) (handle text : String)
    (parameters : Parameters) {cache : IdentifierCache}
    (demanded : (start.after before).demand = .ok cache)
    (bound : ∀ names, detectIdentifiers text = .ok names →
      ∀ name ∈ names, parameters.contains name = true) :
    let session := start.after before
    (session.evaluate text parameters).1 =
        (compileFor text parameters >>= fun compiled => compiled.executeByName parameters) ∧
      (session.evaluate text parameters).1 =
        ((session.compile handle text parameters).1 >>= fun _ =>
          (session.compile handle text parameters).2.execute handle parameters) := by
  intro session
  have faithful : session.Faithful := faithful_start.after before
  have direct : (session.evaluate text parameters).1 =
      compileFor text parameters >>= fun compiled => compiled.executeByName parameters := by
    rw [faithful.evaluate_eq demanded, evaluateDirectly_eq_answerOver bound,
      executeByName_eq_answerOver]
  exact ⟨direct, direct.trans (compile_execute session handle text parameters).symm⟩

/-- A parameter that the text does not name is a slot of the compiled expression only. -/
theorem evaluate_eq_compile_execute_unnamed :
    let parameters : Parameters :=
      ⟨[("c", .string "on"), ("b", .null), ("a", .number (.integer 1))], by decide⟩
    let session := start.after [.configure (some 1), .detect "b"]
    (∃ cache, session.demand = .ok cache) ∧
      (∀ names, detectIdentifiers "a < 2 && b" = .ok names →
        ∀ name ∈ names, parameters.contains name = true) ∧
      (session.evaluate "a < 2 && b" parameters).1 =
        ((session.compile "h" "a < 2 && b" parameters).1 >>= fun _ =>
          (session.compile "h" "a < 2 && b" parameters).2.execute "h" parameters) := by
  intro parameters session
  have demanded : session.demand = .ok ⟨some 1, [("b", ["b"])], 1⟩ := by
    with_unfolding_all rfl
  have detected : detectIdentifiers "a < 2 && b" = .ok ["a", "b"] := by
    with_unfolding_all rfl
  have bound : ∀ names, detectIdentifiers "a < 2 && b" = .ok names →
      ∀ name ∈ names, parameters.contains name = true := by
    intro names found
    rw [detected] at found
    cases found
    decide
  exact ⟨⟨_, demanded⟩, bound,
    (evaluate_eq_compile_execute [.configure (some 1), .detect "b"] "h" "a < 2 && b" parameters
      demanded bound).2⟩

end Session

end Predicates
