/-
This file finds the data that a YAML text stands for.
-/

import Predicates.Yaml.Document
import Predicates.Yaml.Merge
import Predicates.Yaml.ScalarData

namespace Predicates.Yaml

/-- A mapping with a default value can stand for a scalar, and the count bounds the nesting. -/
def Graph.scalarText? (graph : Graph) : Nat → NodeId → Option String
  | 0, _ => none
  | count + 1, id =>
    match graph.content id with
    | .scalar text => some text
    | .sequence _ => none
    | .mapping entries =>
      (entries.find? fun entry => graph.tag entry.1 = .value).bind fun entry =>
        graph.scalarText? count entry.2

/-- The data that is known stands beside the graph, with the entries of the mappings. Collections
wait until what stands around them is known. -/
structure Loading where
  graph : Graph
  mergeCount : Nat
  data : Array (Option Data)
  mappings : Array (List DataEntry)
  waiting : Array NodeId

abbrev Load := StateT Loading (Except Fault)

namespace Load

def refused {A : Type} (refusal : Refusal) : Load A :=
  fun _ => refuse refusal

def node (id : NodeId) : Load Node := do
  return (← get).graph.node id

def scalarData (id : NodeId) (tag : Tag) : Load Data := do
  let graph := (← get).graph
  match graph.scalarText? graph.size id with
  | some text => ScalarData.ofText tag id text
  | none => refused .wrongKind

/-- A collection is known by its tag before its members are. -/
def collectionData (id : NodeId) (tag : Tag) : Load Data := do
  modify fun loading => { loading with waiting := loading.waiting.push id }
  return if tag = .mapping then .mapping id else .other

def newData (id : NodeId) : Load Data := do
  let tag := (← node id).tag
  if tag.isCollection then collectionData id tag
  else if tag.isScalar then scalarData id tag
  else refused .unknownTag

/-- A node that stands in several places has the same data in all of them. -/
def dataOf (id : NodeId) : Load Data := do
  match ((← get).data[id]?).join with
  | some data => return data
  | none =>
    let data ← newData id
    modify fun loading => { loading with data := loading.data.modify id fun _ => some data }
    return data

def flatten (id : NodeId) : Load Unit := do
  let loading ← get
  let graph ← loading.graph.gather loading.mergeCount id []
  set { loading with graph := graph }

def addEntry (known : List DataEntry) (entry : NodeEntry) : Load (List DataEntry) := do
  let key ← dataOf entry.1
  if key.isCollection then refused .unusableKey
  else
    let value ← dataOf entry.2
    return Data.insert known key value

def mappingEntries (id : NodeId) : Load (List DataEntry) := do
  if !(← get).graph.isMapping id then refused .wrongKind
  else
    flatten id
    ((← get).graph.entries id).foldlM addEntry []

def items (id : NodeId) : Load (List NodeId) := do
  match (← node id).content with
  | .sequence items => return items
  | _ => refused .wrongKind

/-- Every pair is a mapping with one entry, and its key can be a collection. -/
def readPair (id : NodeId) : Load Unit := do
  match (← node id).content with
  | .mapping [(key, value)] =>
    let _ ← dataOf key
    let _ ← dataOf value
  | _ => refused .badPair

/-- Collections must have tags of their own kind. -/
def fill (id : NodeId) : Load Unit := do
  let tag := (← node id).tag
  if tag = .sequence then (← items id).forM fun item => discard (dataOf item)
  else if tag = .pairs || tag = .orderedPairs then (← items id).forM readPair
  else
    let entries ← mappingEntries id
    modify fun loading =>
      { loading with mappings := loading.mappings.modify id fun _ => entries }

/-- Collections are filled in the order in which they were met, and each node waits only once, so
the number of nodes bounds them. -/
def fillFrom (index : Nat) : Nat → Load Unit
  | 0 => return
  | count + 1 => do
    match (← get).waiting[index]? with
    | none => return
    | some id =>
      fill id
      fillFrom (index + 1) count

end Load

/-- The entries of a mapping are found by its node. -/
structure LoadedData where
  root : Data
  mappings : Array (List DataEntry)

namespace LoadedData

def null : LoadedData := ⟨.null, #[]⟩

def entries? (loaded : LoadedData) : Data → Option (List DataEntry)
  | .mapping id => some (loaded.mappings[id]?.getD [])
  | _ => none

def ofDocument (document : Document) : Except Fault LoadedData := do
  let graph := document.graph
  let start : Loading :=
    ⟨graph, graph.mergeCount, Array.replicate graph.size none, Array.replicate graph.size [], #[]⟩
  let load : Load Data := do
    let root ← Load.dataOf document.root
    Load.fillFrom 0 graph.size
    return root
  let (root, final) ← load start
  return ⟨root, final.mappings⟩

/-- A text without a document stands for null. -/
def ofText (text : String) : Except Fault LoadedData := do
  match ← Document.ofTokens (tokensOf text) with
  | none => return null
  | some document => ofDocument document

end LoadedData

end Predicates.Yaml
