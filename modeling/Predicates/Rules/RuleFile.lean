/-
This file reads rules from data.
-/

import Predicates.Rules.DataView
import Predicates.Rules.Rule

namespace Predicates

/-- A field of an entry is a text, is absent, or is something else. -/
inductive RuleField where
  | text (content : String)
  | absent
  | other
  deriving DecidableEq

/-- An entry is a text, a mapping with two fields of interest, or something else. -/
inductive RuleEntry where
  | text (content : String)
  | mapping (expression description : RuleField)
  | other
  deriving DecidableEq

/-- A file has its rules in a mapping of names to entries, or it has no such mapping. A key that
cannot be written gives no name. -/
abbrev RuleDocument := Option (List (Option String × RuleEntry))

inductive RuleShapeError where
  | missingRules (path : String)
  | unwritableName
  | badDescription (path name : String)
  | badEntry (path name : String)
  deriving DecidableEq

def RuleShapeError.message : RuleShapeError → String
  | .missingRules path => s!"{path}: expected a top-level 'rules' mapping"
  | .unwritableName =>
    s!"Exceeds the limit ({digitLimit} digits) for integer string conversion; " ++
      "use sys.set_int_max_str_digits() to increase the limit"
  | .badDescription path name => s!"{path}: rule '{name}' description must be a string"
  | .badEntry path name =>
    s!"{path}: rule '{name}' must be a string or a mapping with 'expression'"

/-- A rule without a description has an empty one. -/
def Rule.ofEntry (path name : String) : RuleEntry → Except RuleShapeError Rule
  | .text expression => .ok ⟨name, expression, ""⟩
  | .mapping (.text expression) (.text description) => .ok ⟨name, expression, description⟩
  | .mapping (.text expression) .absent => .ok ⟨name, expression, ""⟩
  | .mapping (.text _) .other => .error (.badDescription path name)
  | _ => .error (.badEntry path name)

namespace RuleSet

/-- The entries before a malformed one are added. -/
def addEntries (path : String) (set : RuleSet) :
    List (Option String × RuleEntry) → Except RuleShapeError Unit × RuleSet
  | [] => (.ok (), set)
  | (none, _) :: _ => (.error .unwritableName, set)
  | (some name, entry) :: rest =>
    match Rule.ofEntry path name entry with
    | .error error => (.error error, set)
    | .ok rule => addEntries path (set.put rule) rest

def addDocument (set : RuleSet) (path : String) :
    RuleDocument → Except RuleShapeError Unit × RuleSet
  | none => (.error (.missingRules path), set)
  | some entries => set.addEntries path entries

end RuleSet

section Data

variable {Data : Type}

def RuleField.ofView? : Option (DataView Data) → RuleField
  | none => .absent
  | some .null => .absent
  | some (.text content) => .text content
  | some _ => .other

/-- The fields of a mapping are found under the texts of their names. -/
def RuleEntry.ofView (view : Data → DataView Data) : DataView Data → RuleEntry
  | .text content => .text content
  | .mapping entries =>
    let field := fun (name : String) => RuleField.ofView? ((entries.lookup (.text name)).map view)
    .mapping (field "expression") (field "description")
  | _ => .other

/-- A rule is named by the text of its key. -/
def RuleDocument.ofView (view : Data → DataView Data) : DataView Data → RuleDocument
  | .mapping entries =>
    match (entries.lookup (.text "rules")).map view with
    | some (.mapping rules) =>
      some (rules.map fun rule => (rule.1.name?, .ofView view (view rule.2)))
    | _ => none
  | _ => none

end Data

def RuleEntry.ofValue (value : Value) : RuleEntry :=
  .ofView Value.view value.view

end Predicates
