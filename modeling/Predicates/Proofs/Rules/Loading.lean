/-
This file describes what a rule file adds to a set: the rules of its entries in their order, up to
the first entry that is refused.
-/

import Predicates.Proofs.Outcome
import Predicates.Proofs.Rules.Override
import Predicates.Rules.Loading
import Mathlib.Data.List.Forall2

namespace Predicates

/-- Every item has a partner, or there is a first item that has none. -/
theorem forall₂_or_first {A B : Type} (related : A → B → Prop) (items : List A) :
    (∃ others, List.Forall₂ related items others) ∨
      ∃ before item rest others, items = before ++ item :: rest ∧
        List.Forall₂ related before others ∧ ∀ other, ¬ related item other := by
  induction items with
  | nil => exact Or.inl ⟨[], .nil⟩
  | cons item items inductionHypothesis =>
      by_cases partner : ∃ other, related item other
      · obtain ⟨other, found⟩ := partner
        rcases inductionHypothesis with ⟨others, all⟩ | ⟨before, first, rest, others, rfl, all, none⟩
        · exact Or.inl ⟨other :: others, .cons found all⟩
        · exact Or.inr ⟨item :: before, first, rest, other :: others, rfl, .cons found all, none⟩
      · exact Or.inr ⟨[], item, items, [], rfl, .nil, fun other found => partner ⟨other, found⟩⟩

namespace RuleEntry

variable {entry : RuleEntry} {path name : String}

/-- An entry describes a rule by the text of its expression alone, or by a mapping with this text and
maybe a description. -/
inductive Describes : RuleEntry → String → String → Prop where
  | text (expression : String) : Describes (.text expression) expression ""
  | described (expression description : String) :
      Describes (.mapping (.text expression) (.text description)) expression description
  | undescribed (expression : String) :
      Describes (.mapping (.text expression) .absent) expression ""

/-- An entry is refused when its description is no text, or when it is neither a text nor a mapping
with the text of an expression. -/
inductive Refused (path name : String) : RuleEntry → RuleShapeError → Prop where
  | description (expression : String) :
      Refused path name (.mapping (.text expression) .other) (.badDescription path name)
  | entry {entry : RuleEntry} (noText : ∀ expression, entry ≠ .text expression)
      (noMapping : ∀ expression description, entry ≠ .mapping (.text expression) description) :
      Refused path name entry (.badEntry path name)

end RuleEntry

namespace Rule

variable {entry : RuleEntry} {path name : String} {rule : Rule} {error : RuleShapeError}

/-- A rule is read from an entry that describes it. -/
theorem ofEntry_of_describes (described : entry.Describes rule.expression rule.description) :
    Rule.ofEntry path rule.name entry = .ok rule := by
  obtain ⟨name, expression, description⟩ := rule
  cases described <;> rfl

theorem ofEntry_of_refused (refused : entry.Refused path name error) :
    Rule.ofEntry path name entry = .error error := by
  cases refused with
  | description expression => rfl
  | entry noText noMapping =>
      unfold Rule.ofEntry
      split
      · exact absurd rfl (noText _)
      · exact absurd rfl (noMapping _ _)
      · exact absurd rfl (noMapping _ _)
      · exact absurd rfl (noMapping _ _)
      · rfl

end Rule

/-- Every entry describes a rule or is refused. -/
theorem RuleEntry.describes_or_refused (path name : String) (entry : RuleEntry) :
    (∃ expression description, entry.Describes expression description) ∨
      ∃ error, entry.Refused path name error := by
  match entry with
  | .text expression => exact Or.inl ⟨_, _, .text expression⟩
  | .mapping (.text expression) (.text description) =>
      exact Or.inl ⟨_, _, .described expression description⟩
  | .mapping (.text expression) .absent => exact Or.inl ⟨_, _, .undescribed expression⟩
  | .mapping (.text expression) .other => exact Or.inr ⟨_, .description expression⟩
  | .mapping .absent description => exact Or.inr ⟨_, .entry nofun nofun⟩
  | .mapping .other description => exact Or.inr ⟨_, .entry nofun nofun⟩
  | .other => exact Or.inr ⟨_, .entry nofun nofun⟩

/-- An entry gives a rule under its name when the name can be written. -/
def GivesRule (entry : Option String × RuleEntry) (rule : Rule) : Prop :=
  entry.1 = some rule.name ∧ entry.2.Describes rule.expression rule.description

/-- A file yields the rules of its entries. It yields none without a mapping of rules, and only those
before the first entry that is refused or has no name. -/
inductive RuleDocument.Yields (path : String) :
    RuleDocument → List Rule → Except RuleShapeError Unit → Prop where
  | noMapping : Yields path none [] (.error (.missingRules path))
  | complete {entries : List (Option String × RuleEntry)} {rules : List Rule}
      (given : List.Forall₂ GivesRule entries rules) : Yields path (some entries) rules (.ok ())
  | refused {before rest : List (Option String × RuleEntry)} {rules : List Rule} {name : String}
      {entry : RuleEntry} {error : RuleShapeError} (given : List.Forall₂ GivesRule before rules)
      (refused : entry.Refused path name error) :
      Yields path (some (before ++ (some name, entry) :: rest)) rules (.error error)
  | unwritable {before rest : List (Option String × RuleEntry)} {rules : List Rule}
      {entry : RuleEntry} (given : List.Forall₂ GivesRule before rules) :
      Yields path (some (before ++ (none, entry) :: rest)) rules (.error .unwritableName)

theorem RuleDocument.exists_yields (path : String) (document : RuleDocument) :
    ∃ rules outcome, document.Yields path rules outcome := by
  cases document with
  | none => exact ⟨[], _, .noMapping⟩
  | some entries =>
      rcases forall₂_or_first GivesRule entries with
        ⟨rules, given⟩ | ⟨before, ⟨name, entry⟩, rest, rules, rfl, given, none⟩
      · exact ⟨rules, _, .complete given⟩
      · cases name with
        | none => exact ⟨rules, _, .unwritable given⟩
        | some name =>
            rcases entry.describes_or_refused path name with
              ⟨expression, description, described⟩ | ⟨error, refused⟩
            · exact absurd ⟨rfl, described⟩ (none ⟨name, expression, description⟩)
            · exact ⟨rules, _, .refused given refused⟩

namespace RuleSet

variable {entries before rest : List (Option String × RuleEntry)} {rules : List Rule}
  {path : String} {document : RuleDocument} {outcome : Except RuleShapeError Unit}

/-- The rules of the first entries are in the set when the next entry is read. -/
theorem addEntries_append (given : List.Forall₂ GivesRule before rules) :
    ∀ set : RuleSet, set.addEntries path (before ++ rest) =
      RuleSet.addEntries path (set.putAll rules) rest := by
  -- Each rule changes the set that the later entries are added to.
  induction given with
  | nil => exact fun set => rfl
  | @cons entry rule before rules gives given inductionHypothesis =>
      intro set
      obtain ⟨name, described⟩ := gives
      obtain ⟨key, entry⟩ := entry
      dsimp only at name described
      rw [name, List.cons_append, addEntries, Rule.ofEntry_of_describes described]
      exact inductionHypothesis (set.put rule)

/-- A file adds the rules that it yields, whatever the set holds. -/
theorem addDocument_of_yields (yields : document.Yields path rules outcome) (set : RuleSet) :
    set.addDocument path document = (outcome, set.putAll rules) := by
  cases yields with
  | noMapping => rfl
  | complete given =>
      have all := @addEntries_append _ [] _ path given set
      rw [List.append_nil] at all
      exact all
  | refused given refused =>
      rw [addDocument, addEntries_append given, addEntries, Rule.ofEntry_of_refused refused]
  | unwritable given =>
      rw [addDocument, addEntries_append given, addEntries]

end RuleSet

namespace Workspace

variable {Fault Data : Type} {reader : Reader Fault Data} {workspace : Workspace} {path : String}
  {rules : List Rule} {outcome : Except (LoadError Fault) Unit}

/-- A file that cannot be read yields nothing. -/
inductive FileYields (reader : Reader Fault Data) (workspace : Workspace) (path : String) :
    List Rule → Except (LoadError Fault) Unit → Prop where
  | unread {error : LoadError Fault} (unread : workspace.document reader (.ofText path) = .error error) :
      FileYields reader workspace path [] (.error error)
  | read {document : RuleDocument} {rules : List Rule} {outcome : Except RuleShapeError Unit}
      (read : workspace.document reader (.ofText path) = .ok document)
      (yields : document.Yields path rules outcome) :
      FileYields reader workspace path rules (outcome.mapError .shape)

theorem exists_fileYields (reader : Reader Fault Data) (workspace : Workspace) (path : String) :
    ∃ rules outcome, workspace.FileYields reader path rules outcome := by
  cases read : workspace.document reader (.ofText path) with
  | error error => exact ⟨[], _, .unread read⟩
  | ok document =>
      obtain ⟨rules, outcome, yields⟩ := document.exists_yields path
      exact ⟨rules, _, .read read yields⟩

/-- Only the data of the file decides what it yields. -/
theorem FileYields.congr {other : Workspace} (yields : workspace.FileYields reader path rules outcome)
    (same : other.document reader (.ofText path) = workspace.document reader (.ofText path)) :
    other.FileYields reader path rules outcome := by
  cases yields with
  | unread unread => exact .unread (same.trans unread)
  | read read yields => exact .read (same.trans read) yields

/-- A load adds what the file yields, and it fails as the file does. -/
theorem loadFile_of_fileYields (yields : workspace.FileYields reader path rules outcome) (set : RuleSet) :
    workspace.loadFile reader path set = (outcome, set.putAll rules) := by
  cases yields with
  | unread unread =>
      rw [loadFile, unread]
      rfl
  | read read yields =>
      rw [loadFile, read]
      simp only [RuleSet.addDocument_of_yields yields]

/-- The last answer leaves this workspace. -/
def after (reader : Reader Fault Data) (workspace : Workspace) (requests : List Request) :
    Workspace :=
  ((workspace.replies reader requests).map Prod.snd).getLastD workspace

theorem after_cons (reader : Reader Fault Data) (workspace : Workspace) (request : Request)
    (rest : List Request) :
    workspace.after reader (request :: rest) = (workspace.step reader request).2.after reader rest := by
  unfold after
  rw [replies, List.map_cons, List.getLastD_cons]

/-- These requests do not add rules, and they keep the current set. -/
def Request.leavesRules : Request → Bool
  | .write _ _ => true
  | .get _ => true
  | .all => true
  | .evaluate _ _ => true
  | .required _ => true
  | .validate => true
  | .contains _ => true
  | _ => false

/-- These requests keep the current set and may add to it. -/
def Request.addsOnly : Request → Bool
  | .add _ => true
  | .load _ intoCurrent => intoCurrent
  | request => request.leavesRules

/-- A request applies the rule that it adds or the rules that its file yields. -/
inductive Applies (reader : Reader Fault Data) (workspace : Workspace) :
    Request → List Rule → Prop where
  | add (rule : Rule) : Applies reader workspace (.add rule) [rule]
  | load {path : String} {rules : List Rule} {outcome : Except (LoadError Fault) Unit}
      (yields : workspace.FileYields reader path rules outcome) :
      Applies reader workspace (.load path true) rules
  | none {request : Request} (leaves : request.leavesRules = true) :
      Applies reader workspace request []

/-- The files may change between the requests of a run. -/
inductive AppliesAll (reader : Reader Fault Data) :
    Workspace → List Request → List Rule → Prop where
  | nil (workspace : Workspace) : AppliesAll reader workspace [] []
  | cons {workspace : Workspace} {request : Request} {requests : List Request}
      {first rest : List Rule} (applies : workspace.Applies reader request first)
      (others : AppliesAll reader (workspace.step reader request).2 requests rest) :
      AppliesAll reader workspace (request :: requests) (first ++ rest)

theorem exists_applies (reader : Reader Fault Data) (workspace : Workspace) {request : Request}
    (adds : request.addsOnly = true) : ∃ rules, workspace.Applies reader request rules := by
  cases request with
  | add rule => exact ⟨[rule], .add rule⟩
  | load path intoCurrent =>
      cases intoCurrent with
      | false => cases adds
      | true =>
          obtain ⟨rules, outcome, yields⟩ := workspace.exists_fileYields reader path
          exact ⟨rules, .load yields⟩
  | _ => exact ⟨[], .none adds⟩

theorem exists_appliesAll (reader : Reader Fault Data) {requests : List Request}
    (adds : ∀ request ∈ requests, request.addsOnly = true) :
    ∀ workspace : Workspace, ∃ rules, workspace.AppliesAll reader requests rules := by
  induction requests with
  | nil => exact fun workspace => ⟨[], .nil workspace⟩
  | cons request requests inductionHypothesis =>
      intro workspace
      rw [List.forall_mem_cons] at adds
      obtain ⟨first, applies⟩ := workspace.exists_applies reader adds.1
      obtain ⟨rest, others⟩ := inductionHypothesis adds.2 (workspace.step reader request).2
      exact ⟨first ++ rest, .cons applies others⟩

/-- A load into the current set keeps what was added before an error. -/
theorem load_of_fileYields (yields : workspace.FileYields reader path rules outcome) :
    workspace.load reader path true =
      (outcome.map fun _ => (workspace.rules.putAll rules).size,
        workspace.withRules (workspace.rules.putAll rules)) := by
  simp only [load, if_true, loadFile_of_fileYields yields]
  cases outcome <;> rfl

/-- A request adds the rules that it applies. -/
theorem rules_step {request : Request} (applies : workspace.Applies reader request rules) :
    (workspace.step reader request).2.rules = workspace.rules.putAll rules := by
  cases applies with
  | add rule => rfl
  | load yields =>
      simp only [step, load_of_fileYields yields]
      rfl
  | none leaves =>
      cases request with
      | new => cases leaves
      | load path intoCurrent => cases leaves
      | loadDirectory path => cases leaves
      | add rule => cases leaves
      | _ => rfl

/-- A run of requests adds all rules that they apply, in the same order. -/
theorem rules_after {requests : List Request} (applies : workspace.AppliesAll reader requests rules) :
    (workspace.after reader requests).rules = workspace.rules.putAll rules := by
  induction applies with
  | nil workspace => rfl
  | @cons workspace request requests first rest applies others inductionHypothesis =>
      rw [after_cons, inductionHypothesis, rules_step applies, Keyed.putAll_append]

end Workspace

end Predicates
