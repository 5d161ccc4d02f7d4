/-
This file builds the graph of nodes that the tokens of a YAML text describe.
-/

import Predicates.Yaml.Graph
import Predicates.Yaml.Layout

namespace Predicates.Yaml

/-- The tokens that are left stand beside the graph so far, the nodes of the anchors, and the tags
that the handles abbreviate. -/
structure Reading where
  tokens : List Token
  graph : Graph
  anchors : List (String × NodeId)
  handles : List (String × String)

abbrev Read := StateT Reading (Except Fault)

namespace Reading

def standardHandles : List (String × String) :=
  [("!", "!"), ("!!", Tag.standardNamespace)]

def start (tokens : List Token) (handles : List (String × String)) : Reading :=
  ⟨tokens, .empty, [], handles ++ standardHandles⟩

end Reading

namespace Read

def refused {A : Type} (refusal : Refusal) : Read A :=
  fun _ => refuse refusal

/-- An unreadable token shows its own fault. -/
def tokenFault : List Token → Fault
  | .unreadable fault :: _ => fault
  | _ => .refusal .unexpectedToken

def unexpected {A : Type} : Read A :=
  fun reading => .error (tokenFault reading.tokens)

def skip (count : Nat) : Read Unit :=
  modify fun reading => { reading with tokens := reading.tokens.drop count }

def startsWithAny (choices : List Token) : Read Bool := do
  return (← get).tokens.head?.any fun token => choices.contains token

def takeIf (token : Token) : Read Bool := do
  let found ← startsWithAny [token]
  if found then skip 1
  return found

def expect (token : Token) : Read Unit := do
  let found ← takeIf token
  if !found then unexpected

def tagName (handle : Option String) (suffix : String) : Read String := do
  match handle with
  | none => return suffix
  | some name =>
    match (← get).handles.lookup name with
    | some start => return start ++ suffix
    | none => refused .unknownTagHandle

/-- A node is known by its anchor from its start on. -/
def add (anchor : Option String) (node : Node) : Read NodeId := do
  let id := (← get).graph.size
  let named := anchor.toList.map fun name => (name, id)
  modify fun reading =>
    { reading with graph := reading.graph.add node, anchors := named ++ reading.anchors }
  return id

def setContent (id : NodeId) (content : NodeContent) : Read Unit :=
  modify fun reading => { reading with graph := reading.graph.setContent id content }

/-- Only plain scalars without a tag of their own are resolved from their text. -/
def addScalar (anchor tag : Option String) (plain : Bool) (text : String) : Read NodeId :=
  add anchor ⟨Tag.ofScalar tag plain text, .scalar text⟩

def addEmpty : Read NodeId :=
  addScalar none none true ""

end Read

/-- Anchors and tags stand before the node that they describe, in either order. -/
structure NodeProperties where
  anchor : Option String
  tag : Option String

namespace Node

open Read

def readProperties : Read NodeProperties := do
  match (← get).tokens with
  | .anchor name :: .tag handle suffix :: _ =>
    skip 2
    return ⟨some name, some (← tagName handle suffix)⟩
  | .tag handle suffix :: .anchor name :: _ =>
    skip 2
    return ⟨some name, some (← tagName handle suffix)⟩
  | .anchor name :: _ =>
    skip 1
    return ⟨some name, none⟩
  | .tag _ _ :: .unreadable fault :: _ => throw fault
  | .tag handle suffix :: _ =>
    skip 1
    return ⟨none, some (← tagName handle suffix)⟩
  | _ => return ⟨none, none⟩

/-- An anchor may be given only once, and this is checked when the content is seen. -/
def checkAnchor (anchor : Option String) : Read Unit := do
  match (← get).tokens with
  | .unreadable fault :: _ => throw fault
  | _ =>
    let known := (← get).anchors
    if anchor.any fun name => (known.lookup name).isSome then refused .repeatedAnchor

/-- Block collections are read only where a block may start, and entries without indentation
only below a key. -/
structure Context where
  block : Bool
  indentless : Bool

def Context.flow : Context := ⟨false, false⟩

def Context.blockOnly : Context := ⟨true, false⟩

def Context.belowKey : Context := ⟨true, true⟩

/-- A node may be left out before one of the given tokens. -/
def orEmpty (stops : List Token) (read : Read NodeId) : Read NodeId := do
  if ← startsWithAny stops then addEmpty else read

def addSequence (properties : NodeProperties) (items : Read (List NodeId)) : Read NodeId := do
  let id ← add properties.anchor ⟨Tag.ofSequence properties.tag, .sequence []⟩
  setContent id (.sequence (← items))
  return id

def addMapping (properties : NodeProperties) (entries : Read (List NodeEntry)) : Read NodeId := do
  let id ← add properties.anchor ⟨Tag.ofMapping properties.tag, .mapping []⟩
  setContent id (.mapping (← entries))
  return id

/-- A node with an anchor or a tag may have no content. -/
def addBare (properties : NodeProperties) : Read NodeId :=
  if properties.anchor.isSome || properties.tag.isSome then
    addScalar properties.anchor properties.tag true ""
  else unexpected

mutual

/-- The count bounds the nesting of readings and is never reached. -/
def read (count : Nat) (context : Context) : Read NodeId :=
  match count with
  | 0 => unexpected
  | count + 1 => do
    match (← get).tokens with
    | .alias name :: _ =>
      skip 1
      match (← get).anchors.lookup name with
      | some id => return id
      | none => refused .unknownAlias
    | _ =>
      let properties ← readProperties
      checkAnchor properties.anchor
      readContent count context properties
termination_by structural count

def readContent (count : Nat) (context : Context) (properties : NodeProperties) : Read NodeId :=
  match count with
  | 0 => unexpected
  | count + 1 => do
    match (← get).tokens with
    | .scalar plain text :: _ =>
      skip 1
      addScalar properties.anchor properties.tag plain text
    | .flowSequenceStart :: _ =>
      skip 1
      addSequence properties (readFlowItems count true)
    | .flowMappingStart :: _ =>
      skip 1
      addMapping properties (readFlowEntries count true)
    | .blockSequenceStart :: _ =>
      if context.block then
        skip 1
        addSequence properties (readBlockItems count)
      else addBare properties
    | .blockMappingStart :: _ =>
      if context.block then
        skip 1
        addMapping properties (readBlockEntries count)
      else addBare properties
    | .blockEntry :: _ =>
      if context.indentless then addSequence properties (readLooseItems count)
      else addBare properties
    | _ => addBare properties

def readBlockItems (count : Nat) : Read (List NodeId) :=
  match count with
  | 0 => unexpected
  | count + 1 => do
    if ← takeIf .blockEntry then
      let item ← orEmpty [.blockEntry, .blockEnd] (read count .blockOnly)
      let others ← readBlockItems count
      return item :: others
    else
      expect .blockEnd
      return []

/-- Items that stand at the column of their key end without a token of their own. -/
def readLooseItems (count : Nat) : Read (List NodeId) :=
  match count with
  | 0 => unexpected
  | count + 1 => do
    if ← takeIf .blockEntry then
      let item ← orEmpty [.blockEntry, .key, .value, .blockEnd] (read count .blockOnly)
      let others ← readLooseItems count
      return item :: others
    else return []

def readBlockEntries (count : Nat) : Read (List NodeEntry) :=
  match count with
  | 0 => unexpected
  | count + 1 => do
    if ← takeIf .key then
      let key ← orEmpty [.key, .value, .blockEnd] (read count .belowKey)
      let value ← readBlockValue count
      let others ← readBlockEntries count
      return (key, value) :: others
    else
      expect .blockEnd
      return []

def readBlockValue (count : Nat) : Read NodeId :=
  match count with
  | 0 => unexpected
  | count + 1 => do
    if ← takeIf .value then orEmpty [.key, .value, .blockEnd] (read count .belowKey)
    else addEmpty

/-- Flow items are separated by commas, and one may follow the last item. A single key with its
value is an item of its own. -/
def readFlowItems (count : Nat) (first : Bool) : Read (List NodeId) :=
  match count with
  | 0 => unexpected
  | count + 1 => do
    if ← takeIf .flowSequenceEnd then return []
    if !first then expect .flowEntry
    if ← takeIf .flowSequenceEnd then return []
    let item ← readFlowItem count
    let others ← readFlowItems count false
    return item :: others

def readFlowItem (count : Nat) : Read NodeId :=
  match count with
  | 0 => unexpected
  | count + 1 => do
    if ← takeIf .key then addMapping ⟨none, none⟩ (readFlowPair count)
    else read count .flow

def readFlowPair (count : Nat) : Read (List NodeEntry) :=
  match count with
  | 0 => unexpected
  | count + 1 => do
    let key ← orEmpty [.value, .flowEntry, .flowSequenceEnd] (read count .flow)
    let value ← readFlowValue count .flowSequenceEnd
    return [(key, value)]

/-- An entry without a colon has an empty value. -/
def readFlowEntries (count : Nat) (first : Bool) : Read (List NodeEntry) :=
  match count with
  | 0 => unexpected
  | count + 1 => do
    if ← takeIf .flowMappingEnd then return []
    if !first then expect .flowEntry
    if ← takeIf .flowMappingEnd then return []
    let entry ← readFlowEntry count
    let others ← readFlowEntries count false
    return entry :: others

def readFlowEntry (count : Nat) : Read NodeEntry :=
  match count with
  | 0 => unexpected
  | count + 1 => do
    if ← takeIf .key then
      let key ← orEmpty [.value, .flowEntry, .flowMappingEnd] (read count .flow)
      let value ← readFlowValue count .flowMappingEnd
      return (key, value)
    else
      let key ← read count .flow
      let value ← addEmpty
      return (key, value)

def readFlowValue (count : Nat) (closing : Token) : Read NodeId :=
  match count with
  | 0 => unexpected
  | count + 1 => do
    if ← takeIf .value then orEmpty [.flowEntry, closing] (read count .flow) else addEmpty

end

end Node

end Predicates.Yaml
