/-
This file holds named expressions and the sets that keep them in order.
-/

import Predicates.Session

namespace Predicates

structure Rule where
  name : String
  expression : String
  description : String
  deriving DecidableEq

/-- A set holds one rule of each name, and a new rule takes the place of the old one. -/
abbrev RuleSet := Keyed Rule.name

/-- An issue tells why the text of a rule is not an expression. -/
structure RuleIssue where
  rule : String
  message : String
  deriving DecidableEq

def RuleIssue.text (issue : RuleIssue) : String :=
  s!"{issue.rule}: {issue.message}"

inductive RuleFailure where
  | unknownRule (name : String)
  | expression (failure : Failure)
  deriving DecidableEq

def RuleFailure.message? : RuleFailure → Option String
  | .unknownRule name => some s!"Unknown rule: {name}"
  | .expression failure => failure.message?

namespace RuleSet

def get (set : RuleSet) (name : String) : Except RuleFailure Rule :=
  match set.find? name with
  | some rule => .ok rule
  | none => .error (.unknownRule name)

/-- The session is left alone when there is no such rule. -/
def withRule {A : Type} (set : RuleSet) (session : Session) (name : String)
    (use : Rule → Except Failure A × Session) : Except RuleFailure A × Session :=
  match set.get name with
  | .error failure => (.error failure, session)
  | .ok rule =>
    let outcome := use rule
    (outcome.1.mapError .expression, outcome.2)

def evaluate (set : RuleSet) (session : Session) (name : String) (parameters : Parameters) :
    Except RuleFailure Bool × Session :=
  set.withRule session name fun rule => session.evaluate rule.expression parameters

def requiredParameters (set : RuleSet) (session : Session) (name : String) :
    Except RuleFailure (List String) × Session :=
  set.withRule session name fun rule => session.detect rule.expression

/-- Malformed expressions become issues, and other failures end the validation. -/
def validateRules : List Rule → Session → Except Failure (List RuleIssue) × Session
  | [], session => (.ok [], session)
  | rule :: rest, session =>
    match session.detect rule.expression with
    | (.ok _, after) => validateRules rest after
    | (.error failure, after) =>
      if failure.isMalformed then
        let issue : RuleIssue := ⟨rule.name, failure.message?.getD ""⟩
        let (issues, final) := validateRules rest after
        (issues.map (issue :: ·), final)
      else (.error failure, after)

def validate (set : RuleSet) (session : Session) :
    Except Failure (List RuleIssue) × Session :=
  validateRules set.items session

end RuleSet

end Predicates
