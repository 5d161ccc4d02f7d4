/-
This file finds the single document of a YAML text.
-/

import Predicates.Yaml.Node

namespace Predicates.Yaml

/-- A document is a graph with the node that stands for the whole. -/
structure Document where
  graph : Graph
  root : NodeId

namespace Document

/-- The version may be given once and must be the first one, and a handle may be given once. -/
def readDirectives (versionSeen : Bool) (handles : List (String × String)) :
    List Token → Except Fault (List (String × String) × List Token)
  | .directive (.version major) :: rest =>
    if versionSeen || major ≠ 1 then refuse .badDirective else readDirectives true handles rest
  | .directive (.tagHandle handle replacement) :: rest =>
    if (handles.lookup handle).isSome then refuse .badDirective
    else readDirectives versionSeen ((handle, replacement) :: handles) rest
  | .directive .reserved :: rest => readDirectives versionSeen handles rest
  | tokens => .ok (handles, tokens)

def startsExplicitly : List Token → Bool
  | .directive _ :: _ => true
  | .documentStart :: _ => true
  | _ => false

/-- The start of a document stands behind its directives. -/
def readStart (tokens : List Token) : Except Fault (List (String × String) × List Token) := do
  let (handles, afterDirectives) ← readDirectives false [] tokens
  match afterDirectives with
  | .documentStart :: content => return (handles, content)
  | _ => throw (Read.tokenFault afterDirectives)

/-- A document may be empty behind its start. -/
def isEmptyContent (tokens : List Token) : Bool :=
  tokens.isEmpty || startsExplicitly tokens || tokens.head? = some .documentEnd

/-- Nothing but end marks may follow the document. -/
def finish (tokens : List Token) : Except Fault Unit :=
  let further := tokens.dropWhile fun token => token = .documentEnd
  if further.isEmpty then .ok ()
  else do
    let _ ← readStart further
    refuse .severalDocuments

def ofRead (handles : List (String × String)) (tokens : List Token) (read : Read NodeId) :
    Except Fault Document := do
  let (root, final) ← read (Reading.start tokens handles)
  finish final.tokens
  return ⟨final.graph, root⟩

def readContent (handles : List (String × String)) (tokens : List Token) :
    Except Fault Document :=
  ofRead handles tokens (Node.read (5 * tokens.length + 8) .blockOnly)

/-- Directives need an explicit start of the document, and a text without tokens has none. -/
def ofTokens (tokens : List Token) : Except Fault (Option Document) := do
  if tokens.isEmpty then return none
  else if startsExplicitly tokens then
    let (handles, content) ← readStart tokens
    if isEmptyContent content then return some (← ofRead handles content Read.addEmpty)
    else return some (← readContent handles content)
  else return some (← readContent [] tokens)

end Document

end Predicates.Yaml
