/-
This file brings the entries that merge keys refer to into the mappings of a graph.
-/

import Predicates.Yaml.Fault
import Predicates.Yaml.Graph

namespace Predicates.Yaml.Graph

def entries (graph : Graph) (id : NodeId) : List NodeEntry :=
  match graph.content id with
  | .mapping entries => entries
  | _ => []

def isMergeEntry (graph : Graph) (entry : NodeEntry) : Bool :=
  graph.tag entry.1 = .merge

/-- The first merge entry is returned with the entries around it. -/
def splitMerge? (graph : Graph) (entries : List NodeEntry) :
    Option (NodeId × List NodeEntry) :=
  match entries.dropWhile fun entry => !graph.isMergeEntry entry with
  | [] => none
  | entry :: after =>
    some (entry.2, (entries.takeWhile fun entry => !graph.isMergeEntry entry) ++ after)

def isMapping (graph : Graph) (id : NodeId) : Bool :=
  match graph.content id with
  | .mapping _ => true
  | _ => false

/-- A mapping can be merged, or a sequence of mappings. -/
def mergeTargets (graph : Graph) (value : NodeId) : Except Fault (List NodeId) :=
  match graph.content value with
  | .mapping _ => .ok [value]
  | .sequence items => if items.all graph.isMapping then .ok items else refuse .badMerge
  | .scalar _ => refuse .badMerge

/-- The mark of a default value is a text when it is a key. -/
def settleKeys (graph : Graph) (entries : List NodeEntry) : Graph :=
  (entries.filter fun entry => graph.tag entry.1 = .value).foldl
    (fun settled entry => settled.setTag entry.1 .text) graph

/-- Merged entries stand before the mapping's own ones. -/
def prepend (graph : Graph) (id : NodeId) (merged : List NodeEntry) : Graph :=
  let own := graph.entries id
  let settled := graph.settleKeys own
  if merged.isEmpty then settled else settled.setContent id (.mapping (merged ++ own))

/-- The merge entries of a mapping are taken out one after the other, and each brings in its
targets after their own merges. Of several targets the first one wins, so it comes last. -/
def gather : Nat → NodeId → List NodeEntry → Graph → Except Fault Graph
  | 0, id, merged, graph => .ok (graph.prepend id merged)
  | count + 1, id, merged, graph =>
    match graph.splitMerge? (graph.entries id) with
    | none => .ok (graph.prepend id merged)
    | some (value, others) => do
      let reduced := graph.setContent id (.mapping others)
      let targets ← reduced.mergeTargets value
      let ready ← targets.foldlM (fun current target => gather count target [] current) reduced
      gather count id (merged ++ targets.reverse.flatMap ready.entries) ready

/-- The number of merge entries bounds how often one can be taken out. -/
def mergeCount (graph : Graph) : Nat :=
  (List.range graph.size).foldl
    (fun count id => count + (graph.entries id).countP graph.isMergeEntry) 0

end Predicates.Yaml.Graph
