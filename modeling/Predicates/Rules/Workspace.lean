/-
This file runs workspaces whose rule files are written in YAML.
-/

import Predicates.Rules.Loading
import Predicates.Yaml.Loading

namespace Predicates

namespace Yaml

/-- Collections are never keys. -/
def Data.key : Data → DataKey
  | .null => .other "None"
  | .bool value => .other (if value then "True" else "False")
  | .int value => .integer value
  | .float value => .other value.text
  | .notNumber _ => .other "nan"
  | .text content => .text content
  | .octets content => .other (Octets.text content)
  | .instant value => .other value.text
  | .mapping _ => .other ""
  | .other => .other ""

/-- The mappings of a document are kept beside each piece of its data. -/
def LoadedData.view (data : LoadedData × Data) : DataView (LoadedData × Data) :=
  match data.2, data.1.entries? data.2 with
  | .null, _ => .null
  | .text content, _ => .text content
  | _, some entries =>
    .mapping (entries.map fun entry => (entry.1.key, (data.1, entry.2)))
  | _, none => .other

def reader : Reader Fault (LoadedData × Data) where
  read text := (LoadedData.ofText text).map fun loaded => (loaded, loaded.root)
  view := LoadedData.view

end Yaml

abbrev WorkspaceFailure := RequestFailure Yaml.Fault

def WorkspaceFailure.message? (failure : WorkspaceFailure) : Option String :=
  RequestFailure.message? Yaml.Fault.message? failure

def Workspace.answers (workspace : Workspace) (requests : List Workspace.Request) :
    List (Except WorkspaceFailure Workspace.Reply × Workspace) :=
  workspace.replies Yaml.reader requests

end Predicates
