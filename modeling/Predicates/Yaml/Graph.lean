/-
This file holds the nodes of a YAML text, which refer to each other by number.
-/

import Predicates.Yaml.Resolution

namespace Predicates.Yaml

abbrev NodeId := Nat

abbrev NodeEntry := NodeId × NodeId

/-- An entry of a mapping pairs the node of a key with the node of its value. -/
inductive NodeContent where
  | scalar (text : String)
  | sequence (items : List NodeId)
  | mapping (entries : List NodeEntry)
  deriving DecidableEq

structure Node where
  tag : Tag
  content : NodeContent
  deriving DecidableEq

/-- A node can stand in several places, also inside itself, so the nodes form a graph. -/
structure Graph where
  nodes : Array Node

namespace Graph

def empty : Graph := ⟨#[]⟩

def size (graph : Graph) : Nat :=
  graph.nodes.size

def node (graph : Graph) (id : NodeId) : Node :=
  graph.nodes[id]?.getD ⟨.null, .scalar ""⟩

def tag (graph : Graph) (id : NodeId) : Tag :=
  (graph.node id).tag

def content (graph : Graph) (id : NodeId) : NodeContent :=
  (graph.node id).content

/-- Nodes are numbered in the order in which they come. -/
def add (graph : Graph) (node : Node) : Graph :=
  ⟨graph.nodes.push node⟩

def change (graph : Graph) (id : NodeId) (edit : Node → Node) : Graph :=
  ⟨graph.nodes.modify id edit⟩

def setContent (graph : Graph) (id : NodeId) (content : NodeContent) : Graph :=
  graph.change id fun node => { node with content := content }

def setTag (graph : Graph) (id : NodeId) (tag : Tag) : Graph :=
  graph.change id fun node => { node with tag := tag }

end Graph

end Predicates.Yaml
