/-
This file shows that rules are loaded in order, entry by entry and file by file, so that later rules
take the places of earlier ones, and that a load ends at the first entry that is refused.
-/

import Predicates.Proofs.Number.Places
import Predicates.Proofs.Rules.FilePath
import Predicates.Proofs.Rules.Loading
import Predicates.Rules.Workspace
import Mathlib.Data.List.Nodup

namespace Predicates

/-- A number with too many digits is no name. -/
theorem DataKey.name?_of_long {value : Nat} (long : digitLimit < decimalPlaces value) :
    (DataKey.integer value).name? = none :=
  if_pos long

namespace Workspace

variable {Fault Data : Type} {reader : Reader Fault Data} {workspace : Workspace}
  {directory path : FilePath} {name text : String}

/-- The files of a tidy workspace are found under the texts of their paths. -/
def Tidy (workspace : Workspace) : Prop :=
  ∀ file ∈ workspace.files.items, file.1.IsPlain

/-- Only a new text for a path changes the files. -/
theorem files_step (reader : Reader Fault Data) (workspace : Workspace) (request : Request) :
    (∃ path text, request = .write path text ∧
      (workspace.step reader request).2.files = workspace.files.put (.ofText path, text)) ∨
    (workspace.step reader request).2.files = workspace.files := by
  cases request with
  | write path text => exact Or.inl ⟨path, text, rfl, rfl⟩
  | load path intoCurrent =>
      right
      simp only [step, load]
      split
      · rfl
      · cases intoCurrent <;> rfl
  | loadDirectory path =>
      right
      simp only [step]
      split <;> rfl
  | _ => exact Or.inr rfl

theorem document_step (reader : Reader Fault Data) (workspace : Workspace) {request : Request}
    (path : FilePath) (keeps : ∀ path text, request ≠ .write path text) :
    (workspace.step reader request).2.document reader path = workspace.document reader path := by
  rcases workspace.files_step reader request with ⟨path, text, same, -⟩ | same
  · exact absurd same (keeps path text)
  · rw [document, same, document]

theorem Tidy.step (tidy : workspace.Tidy) (reader : Reader Fault Data) (request : Request) :
    (workspace.step reader request).2.Tidy := by
  intro file member
  rcases workspace.files_step reader request with ⟨path, text, -, changed⟩ | same
  · rw [changed] at member
    rcases Keyed.mem_putInto member with rfl | old
    · exact FilePath.isPlain_ofText path
    · exact tidy file old
  · rw [same] at member
    exact tidy file member

theorem Tidy.after (reader : Reader Fault Data) (requests : List Request) :
    ∀ {workspace : Workspace}, workspace.Tidy → (workspace.after reader requests).Tidy := by
  induction requests with
  | nil => exact fun tidy => tidy
  | cons request rest inductionHypothesis =>
      intro workspace tidy
      rw [after_cons]
      exact inductionHypothesis (tidy.step reader request)

theorem tidy_start : start.Tidy :=
  fun _ member => nomatch member

/-- A file is read under the text of its path. -/
theorem Tidy.document_eq (tidy : workspace.Tidy) (member : (path, text) ∈ workspace.files.items) :
    workspace.document reader (.ofText path.text) = reader.document text := by
  have found : workspace.files.find? path = some (path, text) :=
    Keyed.find?_of_mem workspace.files member
  rw [(tidy _ member).ofText_text, document, found]

theorem directoryFile?_eq_some :
    directoryFile? directory path = some name ↔
      path = directory.child name ∧ isRuleFile name = true := by
  unfold directoryFile?
  constructor
  · intro found
    split at found
    · rename_i last ends
      split at found
      · rename_i both
        cases found
        simpa using both
      · cases found
    · cases found
  · rintro ⟨rfl, ruleFile⟩
    simp [FilePath.child, ruleFile]

theorem isRuleFile_iff : isRuleFile name = true ↔ ".yaml".toList <:+ name.toList := by
  rw [isRuleFile, String.endsWith_eq_endsWith_toSlice, String.Slice.endsWith_string_iff,
    String.copy_toSlice]

/-- The rule files of a directory are listed. -/
theorem mem_directoryFiles :
    name ∈ workspace.directoryFiles directory ↔
      isRuleFile name = true ∧ ∃ text, (directory.child name, text) ∈ workspace.files.items := by
  unfold directoryFiles
  rw [List.mem_mergeSort, List.mem_filterMap]
  constructor
  · rintro ⟨⟨path, text⟩, member, found⟩
    obtain ⟨rfl, ruleFile⟩ := directoryFile?_eq_some.mp found
    exact ⟨ruleFile, text, member⟩
  · rintro ⟨ruleFile, text, member⟩
    exact ⟨_, member, directoryFile?_eq_some.mpr ⟨rfl, ruleFile⟩⟩

/-- The paths alone decide which files a directory has. -/
theorem filterMap_directoryFile? (workspace : Workspace) (directory : FilePath) :
    (workspace.files.items.filterMap fun file => directoryFile? directory file.1) =
      (workspace.files.items.map Prod.fst).filterMap (directoryFile? directory) := by
  rw [List.filterMap_map]
  rfl

theorem nodup_directoryFiles (workspace : Workspace) (directory : FilePath) :
    (workspace.directoryFiles directory).Nodup := by
  unfold directoryFiles
  rw [(List.mergeSort_perm _ _).nodup_iff, filterMap_directoryFile?]
  apply workspace.files.distinct.filterMap
  intro first second name firstNamed secondNamed
  obtain ⟨rfl, -⟩ := directoryFile?_eq_some.mp firstNamed
  obtain ⟨rfl, -⟩ := directoryFile?_eq_some.mp secondNamed
  rfl

/-- The files of a directory are listed in the order of their names. -/
theorem sorted_directoryFiles (workspace : Workspace) (directory : FilePath) :
    (workspace.directoryFiles directory).Pairwise (· < ·) := by
  have ascending : (workspace.directoryFiles directory).Pairwise fun left right =>
      (!decide (right < left)) = true := by
    unfold directoryFiles
    apply List.pairwise_mergeSort
    · intro first second third lower upper
      simp only [Bool.not_eq_true', decide_eq_false_iff_not, String.not_lt] at lower upper ⊢
      exact String.le_trans lower upper
    · intro left right
      simp only [Bool.or_eq_true, Bool.not_eq_true', decide_eq_false_iff_not, String.not_lt]
      exact String.le_total left right
  refine List.Pairwise.imp₂ ?_ (workspace.nodup_directoryFiles directory) ascending
  intro left right different notAbove
  simp only [Bool.not_eq_true', decide_eq_false_iff_not, String.not_lt] at notAbove
  by_contra notBelow
  exact different (String.le_antisymm notAbove (String.not_lt.mp notBelow))

/-- The file of this name in the directory can be loaded completely. -/
def FileGives (reader : Reader Fault Data) (workspace : Workspace) (directory : FilePath)
    (name : String) (rules : List Rule) : Prop :=
  workspace.FileYields reader (directory.child name).text rules (.ok ())

/-- Only the data of the files decides what they give. -/
theorem fileGives_congr {other : Workspace} {names : List String} {parts : List (List Rule)}
    (given : List.Forall₂ (workspace.FileGives reader directory) names parts)
    (same : ∀ name ∈ names, other.document reader (.ofText (directory.child name).text) =
      workspace.document reader (.ofText (directory.child name).text)) :
    List.Forall₂ (other.FileGives reader directory) names parts := by
  induction given with
  | nil => exact .nil
  | cons gives given inductionHypothesis =>
      rw [List.forall_mem_cons] at same
      exact .cons (gives.congr same.1) (inductionHypothesis same.2)

/-- Files yield the rules of all of them in their order, or they fail as the first that cannot be
loaded completely. -/
inductive FilesYield (reader : Reader Fault Data) (workspace : Workspace) (directory : FilePath) :
    List String → Except (LoadError Fault) (List Rule) → Prop where
  | complete {names : List String} {parts : List (List Rule)}
      (given : List.Forall₂ (workspace.FileGives reader directory) names parts) :
      FilesYield reader workspace directory names (.ok parts.flatten)
  | failed {before rest : List String} {name : String} {parts : List (List Rule)}
      {rules : List Rule} {error : LoadError Fault}
      (given : List.Forall₂ (workspace.FileGives reader directory) before parts)
      (failed : workspace.FileYields reader (directory.child name).text rules (.error error)) :
      FilesYield reader workspace directory (before ++ name :: rest) (.error error)

theorem exists_filesYield (reader : Reader Fault Data) (workspace : Workspace)
    (directory : FilePath) (names : List String) :
    ∃ outcome, workspace.FilesYield reader directory names outcome := by
  rcases forall₂_or_first (workspace.FileGives reader directory) names with
    ⟨parts, given⟩ | ⟨before, name, rest, parts, rfl, given, none⟩
  · exact ⟨_, .complete given⟩
  · obtain ⟨rules, outcome, yields⟩ := workspace.exists_fileYields reader (directory.child name).text
    cases outcome with
    | ok done => exact absurd yields (none rules)
    | error error => exact ⟨_, .failed given yields⟩

/-- The rules of the first files are in the set when the next file is loaded. -/
theorem loadFiles_append {before rest : List String} {parts : List (List Rule)}
    (given : List.Forall₂ (workspace.FileGives reader directory) before parts) :
    ∀ set : RuleSet, workspace.loadFiles reader directory set (before ++ rest) =
      workspace.loadFiles reader directory (set.putAll parts.flatten) rest := by
  induction given with
  | nil => exact fun set => rfl
  | @cons name rules before parts gives given inductionHypothesis =>
      intro set
      rw [List.cons_append, loadFiles, loadFile_of_fileYields gives, List.flatten_cons,
        Keyed.putAll_append]
      exact inductionHypothesis (set.putAll rules)

/-- A directory is loaded into an empty set, which is lost when a file fails. -/
theorem loadFiles_of_filesYield {names : List String}
    {outcome : Except (LoadError Fault) (List Rule)}
    (yields : workspace.FilesYield reader directory names outcome) (set : RuleSet) :
    workspace.loadFiles reader directory set names = outcome.map set.putAll := by
  cases yields with
  | complete given =>
      have all := @loadFiles_append _ _ _ workspace directory _ [] _ given set
      rw [List.append_nil] at all
      exact all
  | failed given failed =>
      rw [loadFiles_append given, loadFiles, loadFile_of_fileYields failed]
      rfl

/-- For every reader of the data in files, rules that are added or loaded into one set stand in the
order of their first names, and each name has its last rule. A load adds the rules of its entries up
to the first that is refused, or nothing when there is no mapping of rules, and it fails as this
entry does. The files of a directory are loaded in the order of their names into one set, and the
first file that fails leaves no set, whatever stands in later files. -/
theorem rules_override_in_order (reader : Reader Fault Data) (earlier : List Request) :
    let workspace := start.after reader earlier
    (∀ requests : List Request, (∀ request ∈ requests, request.addsOnly = true) →
      (∃ rules, workspace.AppliesAll reader requests rules) ∧
      ∀ rules, workspace.AppliesAll reader requests rules →
        RuleSet.Shows (workspace.after reader requests).rules (workspace.rules.items ++ rules)) ∧
    (∀ path : String,
      (∃ rules outcome, workspace.FileYields reader path rules outcome) ∧
      ∀ rules outcome, workspace.FileYields reader path rules outcome →
        ∀ set : RuleSet, ∃ loaded, workspace.loadFile reader path set = (outcome, loaded) ∧
          RuleSet.Shows loaded (set.items ++ rules) ∧ (rules = [] → loaded = set)) ∧
    ∀ path : String,
      let directory := FilePath.ofText path
      let names := workspace.directoryFiles directory
      names.Pairwise (· < ·) ∧
      (∀ name, name ∈ names ↔ ".yaml".toList <:+ name.toList ∧
        ∃ text, (directory.child name, text) ∈ workspace.files.items) ∧
      (∀ name text, (directory.child name, text) ∈ workspace.files.items →
        workspace.document reader (.ofText (directory.child name).text) = reader.document text) ∧
      (∃ outcome, workspace.FilesYield reader directory names outcome) ∧
      (∀ rules, workspace.FilesYield reader directory names (.ok rules) →
        ∃ loaded, workspace.loadDirectory reader path = .ok loaded ∧ RuleSet.Shows loaded rules) ∧
      (∀ error, workspace.FilesYield reader directory names (.error error) →
        workspace.loadDirectory reader path = .error error ∧
          (workspace.step reader (.loadDirectory path)).2 = workspace) ∧
      ∀ before name rest parts rules error, names = before ++ name :: rest →
        List.Forall₂ (workspace.FileGives reader directory) before parts →
        workspace.FileYields reader (directory.child name).text rules (.error error) →
        ∀ (other : Workspace) (others : List String),
          other.directoryFiles directory = before ++ name :: others →
          (∀ earlier ∈ before ++ [name],
            other.document reader (.ofText (directory.child earlier).text) =
              workspace.document reader (.ofText (directory.child earlier).text)) →
          other.loadDirectory reader path = .error error := by
  intro workspace
  have tidy : workspace.Tidy := tidy_start.after reader earlier
  refine ⟨?_, ?_, ?_⟩
  · intro requests adds
    refine ⟨exists_appliesAll reader adds workspace, fun rules applies => ?_⟩
    rw [rules_after applies]
    exact RuleSet.shows_putAll workspace.rules rules
  · intro path
    refine ⟨workspace.exists_fileYields reader path, fun rules outcome yields set => ?_⟩
    refine ⟨_, loadFile_of_fileYields yields set, RuleSet.shows_putAll set rules, ?_⟩
    rintro rfl
    rfl
  · intro path directory names
    have loads {other : Workspace} {files : List String}
        {outcome : Except (LoadError Fault) (List Rule)}
        (listed : other.directoryFiles directory = files)
        (yields : other.FilesYield reader directory files outcome) :
        other.loadDirectory reader path = outcome.map (Keyed.putAll .empty) := by
      rw [loadDirectory, listed]
      exact loadFiles_of_filesYield yields .empty
    have complete (name : String) : name ∈ names ↔ ".yaml".toList <:+ name.toList ∧
        ∃ text, (directory.child name, text) ∈ workspace.files.items := by
      rw [← isRuleFile_iff]
      exact mem_directoryFiles
    refine ⟨workspace.sorted_directoryFiles directory, complete,
      fun name text => tidy.document_eq, workspace.exists_filesYield reader directory names,
      ?_, ?_, ?_⟩
    · intro rules yields
      exact ⟨_, loads rfl yields, RuleSet.shows_putAll .empty rules⟩
    · intro error yields
      have failed := loads rfl yields
      refine ⟨failed, ?_⟩
      simp only [step, failed, Except.map]
    · intro before name rest parts rules error split given failed other others listed same
      have sameFailed := failed.congr (same name (by simp))
      have sameGiven := fileGives_congr given fun earlier member =>
        same earlier (List.mem_append_left _ member)
      exact loads listed (.failed sameGiven sameFailed)

/-- A rule that came first through the program keeps its place under a later text from a file, and
two keys of one file are written alike. The directory has no rules because of a number among the
entries of its second file. -/
theorem rules_override_in_order_colliding :
    let files : List Request :=
      [.write "d/b.yaml" "rules: \x7ba: z, 1: s, '1': t, c: 42, e: w\x7d",
        .write "d/a.yaml" "rules: \x7bb: x, a: y\x7d"]
    let workspace := start.after Yaml.reader files
    let loaded := workspace.after Yaml.reader
      [.add ⟨"a", "v", ""⟩, .load "d/b.yaml" true, .load "d/a.yaml" true]
    (workspace.loadFile Yaml.reader "d/b.yaml" .empty).1 =
        .error (.shape (.badEntry "d/b.yaml" "c")) ∧
      RuleSet.Shows loaded.rules [⟨"a", "v", ""⟩, ⟨"a", "z", ""⟩, ⟨"1", "s", ""⟩, ⟨"1", "t", ""⟩,
        ⟨"b", "x", ""⟩, ⟨"a", "y", ""⟩] ∧
      workspace.loadDirectory Yaml.reader "d" = .error (.shape (.badEntry "d/b.yaml" "c")) := by
  intro files workspace loaded
  have readFirst : workspace.document Yaml.reader (.ofText "d/a.yaml") =
      .ok (some ([(some "b", .text "x"), (some "a", .text "y")])) := by
    decide +kernel
  have readSecond : workspace.document Yaml.reader (.ofText "d/b.yaml") =
      .ok (some ([(some "a", .text "z"), (some "1", .text "s"), (some "1", .text "t")] ++
        (some "c", .other) :: [(some "e", .text "w")])) := by
    decide +kernel
  have first : workspace.FileYields Yaml.reader "d/a.yaml" [⟨"b", "x", ""⟩, ⟨"a", "y", ""⟩]
      (.ok ()) :=
    .read readFirst (.complete (.cons ⟨rfl, .text "x"⟩ (.cons ⟨rfl, .text "y"⟩ .nil)))
  have second : workspace.FileYields Yaml.reader "d/b.yaml"
      [⟨"a", "z", ""⟩, ⟨"1", "s", ""⟩, ⟨"1", "t", ""⟩]
      (.error (.shape (.badEntry "d/b.yaml" "c"))) := by
    refine .read readSecond (.refused ?_ (.entry nofun nofun))
    exact .cons ⟨rfl, .text "z"⟩ (.cons ⟨rfl, .text "s"⟩ (.cons ⟨rfl, .text "t"⟩ .nil))
  have applies : workspace.AppliesAll Yaml.reader
      [.add ⟨"a", "v", ""⟩, .load "d/b.yaml" true, .load "d/a.yaml" true]
      ([⟨"a", "v", ""⟩] ++ ([⟨"a", "z", ""⟩, ⟨"1", "s", ""⟩, ⟨"1", "t", ""⟩] ++
        ([⟨"b", "x", ""⟩, ⟨"a", "y", ""⟩] ++ []))) := by
    refine .cons (.add _) (.cons (.load (second.congr ?_)) (.cons (.load (first.congr ?_)) (.nil _)))
    · exact workspace.document_step Yaml.reader _ (by simp)
    · exact (document_step Yaml.reader _ _ (by simp)).trans
        (workspace.document_step Yaml.reader _ (by simp))
  have listed : workspace.directoryFiles (.ofText "d") = ["a.yaml", "b.yaml"] := by
    have ruleFiles : isRuleFile "a.yaml" = true ∧ isRuleFile "b.yaml" = true := by
      simp only [isRuleFile_iff]
      decide
    have paths : workspace.files.items.map Prod.fst =
        [(FilePath.ofText "d").child "b.yaml", (FilePath.ofText "d").child "a.yaml"] := by
      decide +kernel
    have both : (workspace.directoryFiles (.ofText "d")).Perm ["a.yaml", "b.yaml"] := by
      rw [directoryFiles, filterMap_directoryFile?, paths,
        List.filterMap_cons_some (directoryFile?_eq_some.mpr ⟨rfl, ruleFiles.2⟩),
        List.filterMap_cons_some (directoryFile?_eq_some.mpr ⟨rfl, ruleFiles.1⟩)]
      exact (List.mergeSort_perm _ _).trans (.swap _ _ _)
    exact both.eq_of_pairwise (fun _ _ _ _ below above => absurd above (String.lt_asymm below))
      (workspace.sorted_directoryFiles _) (by decide)
  obtain ⟨added, load, directory⟩ := rules_override_in_order Yaml.reader files
  refine ⟨?_, (added _ (by decide)).2 _ applies, ?_⟩
  · obtain ⟨loaded, failed, -⟩ := (load "d/b.yaml").2 _ _ second .empty
    exact congrArg Prod.fst failed
  · obtain ⟨-, -, -, -, -, fails, -⟩ := directory "d"
    have given : List.Forall₂ (workspace.FileGives Yaml.reader (.ofText "d")) ["a.yaml"]
        [[⟨"b", "x", ""⟩, ⟨"a", "y", ""⟩]] :=
      .cons first .nil
    have failed : workspace.FilesYield Yaml.reader (.ofText "d") (["a.yaml"] ++ "b.yaml" :: [])
        (.error (.shape (.badEntry "d/b.yaml" "c"))) :=
      .failed given second
    exact (fails _ (listed ▸ failed)).1

/-- An entry that is refused under every name fails as none of the refused entries when its key is a
number with too many digits for a text. -/
theorem load_of_unwritable_key :
    let view : Nat → DataView Nat
      | 0 => .mapping [(.text "rules", 1)]
      | 1 => .mapping [(.integer (10 ^ digitLimit : Nat), 2)]
      | _ => .other
    let document := RuleDocument.ofView view (view 0)
    document = some [(none, .other)] ∧
      (∀ path name, RuleEntry.Refused path name .other (.badEntry path name)) ∧
      ∀ path, ∃ error, RuleSet.addDocument .empty path document = (.error error, .empty) ∧
        ∀ entry name, ¬ RuleEntry.Refused path name entry error := by
  intro view document
  have unnamed : (DataKey.integer (10 ^ digitLimit : Nat)).name? = none :=
    DataKey.name?_of_long (lt_decimalPlaces_pow (by decide))
  have nameless : document = some [(none, .other)] := by
    rw [← unnamed]
    rfl
  refine ⟨nameless, fun path name => .entry nofun nofun, ?_⟩
  intro path
  rw [nameless]
  exact ⟨.unwritableName, rfl, fun entry name refused => nomatch refused⟩

end Workspace

end Predicates
