/-
This file keeps a current rule set together with the files that rules are loaded from.
-/

import Predicates.Rules.FilePath
import Predicates.Rules.RuleFile

namespace Predicates

/-- The files stand beside the current rule set and the session that evaluates it. -/
structure Workspace where
  rules : RuleSet
  files : Keyed fun file : FilePath × String => file.1
  session : Session

inductive LoadError (Fault : Type) where
  | missingFile
  | data (fault : Fault)
  | shape (error : RuleShapeError)
  deriving DecidableEq

/-- A missing file has no message, and the faults of a reader have their own. -/
def LoadError.message? {Fault : Type} (faultMessage? : Fault → Option String) :
    LoadError Fault → Option String
  | .missingFile => none
  | .data fault => faultMessage? fault
  | .shape error => some error.message

inductive RequestFailure (Fault : Type) where
  | load (error : LoadError Fault)
  | rule (failure : RuleFailure)
  deriving DecidableEq

def RequestFailure.message? {Fault : Type} (faultMessage? : Fault → Option String) :
    RequestFailure Fault → Option String
  | .load error => error.message? faultMessage?
  | .rule failure => failure.message?

/-- The data of a text decides which rules it holds. -/
def Reader.document {Fault Data : Type} (reader : Reader Fault Data) (text : String) :
    Except (LoadError Fault) RuleDocument :=
  match reader.read text with
  | .error fault => .error (.data fault)
  | .ok data => .ok (.ofView reader.view (reader.view data))

namespace Workspace

def start : Workspace :=
  ⟨.empty, .empty, .start⟩

def write (workspace : Workspace) (path : FilePath) (text : String) : Workspace :=
  { workspace with files := workspace.files.put (path, text) }

/-- The rules of a directory are in the files of this ending. -/
def isRuleFile (name : String) : Bool :=
  name.endsWith ".yaml"

def directoryFile? (directory path : FilePath) : Option String :=
  match path.names.getLast? with
  | some name => if path = directory.child name && isRuleFile name then some name else none
  | none => none

def directoryFiles (workspace : Workspace) (directory : FilePath) : List String :=
  (workspace.files.items.filterMap fun file => directoryFile? directory file.1).mergeSort
    fun left right => !(right < left)

section Reading

variable {Fault Data : Type} (reader : Reader Fault Data)

def document (workspace : Workspace) (path : FilePath) : Except (LoadError Fault) RuleDocument :=
  match workspace.files.find? path with
  | none => .error .missingFile
  | some (_, text) => reader.document text

/-- Rules are added to the given set up to the first error. -/
def loadFile (workspace : Workspace) (path : String) (set : RuleSet) :
    Except (LoadError Fault) Unit × RuleSet :=
  match workspace.document reader (.ofText path) with
  | .error error => (.error error, set)
  | .ok document =>
    let outcome := set.addDocument path document
    (outcome.1.mapError .shape, outcome.2)

def loadFiles (workspace : Workspace) (directory : FilePath) (set : RuleSet) :
    List String → Except (LoadError Fault) RuleSet
  | [] => .ok set
  | name :: rest =>
    match workspace.loadFile reader (directory.child name).text set with
    | (.error error, _) => .error error
    | (.ok _, loaded) => workspace.loadFiles directory loaded rest

/-- The files of a directory are loaded in the order of their names, and a missing directory has
no files. -/
def loadDirectory (workspace : Workspace) (path : String) : Except (LoadError Fault) RuleSet :=
  let directory := FilePath.ofText path
  workspace.loadFiles reader directory .empty (workspace.directoryFiles directory)

end Reading

inductive Request where
  | new
  | write (path text : String)
  | load (path : String) (intoCurrent : Bool)
  | loadDirectory (path : String)
  | add (rule : Rule)
  | get (name : String)
  | all
  | evaluate (name : String) (parameters : Parameters)
  | required (name : String)
  | validate
  | contains (name : String)

inductive Reply where
  | done
  | count (count : Nat)
  | rule (rule : Rule)
  | rules (rules : List Rule)
  | truth (value : Bool)
  | names (names : List String)
  | issues (issues : List RuleIssue)

def withRules (workspace : Workspace) (rules : RuleSet) : Workspace :=
  { workspace with rules := rules }

def answer {Fault A : Type} (workspace : Workspace) (outcome : Except RuleFailure A × Session)
    (reply : A → Reply) : Except (RequestFailure Fault) Reply × Workspace :=
  ((outcome.1.map reply).mapError .rule, { workspace with session := outcome.2 })

section Steps

variable {Fault Data : Type} (reader : Reader Fault Data)

/-- A load into the current set keeps what was added before an error, and a new set replaces the
current one only when it was loaded completely. -/
def load (workspace : Workspace) (path : String) (intoCurrent : Bool) :
    Except (LoadError Fault) Nat × Workspace :=
  let start := if intoCurrent then workspace.rules else .empty
  match workspace.loadFile reader path start with
  | (.ok _, loaded) => (.ok loaded.size, workspace.withRules loaded)
  | (.error error, partly) =>
    (.error error, if intoCurrent then workspace.withRules partly else workspace)

def step (workspace : Workspace) : Request → Except (RequestFailure Fault) Reply × Workspace
  | .new => (.ok .done, workspace.withRules .empty)
  | .write path text => (.ok .done, workspace.write (.ofText path) text)
  | .load path intoCurrent =>
    let outcome := workspace.load reader path intoCurrent
    ((outcome.1.map .count).mapError .load, outcome.2)
  | .loadDirectory path =>
    match workspace.loadDirectory reader path with
    | .error error => (.error (.load error), workspace)
    | .ok rules => (.ok (.count rules.size), workspace.withRules rules)
  | .add rule => (.ok .done, workspace.withRules (workspace.rules.put rule))
  | .get name => (((workspace.rules.get name).map .rule).mapError .rule, workspace)
  | .all => (.ok (.rules workspace.rules.items), workspace)
  | .evaluate name parameters =>
    workspace.answer (workspace.rules.evaluate workspace.session name parameters) .truth
  | .required name =>
    workspace.answer (workspace.rules.requiredParameters workspace.session name) .names
  | .validate =>
    let outcome := workspace.rules.validate workspace.session
    workspace.answer (outcome.1.mapError .expression, outcome.2) .issues
  | .contains name => (.ok (.truth (workspace.rules.contains name)), workspace)

/-- This function answers requests one after the other and keeps the workspace after each. -/
def replies (workspace : Workspace) :
    List Request → List (Except (RequestFailure Fault) Reply × Workspace)
  | [] => []
  | request :: rest =>
    let outcome := workspace.step reader request
    outcome :: outcome.2.replies rest

end Steps

end Workspace

end Predicates
