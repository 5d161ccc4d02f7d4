/-
This file holds the paths of files.
-/

import Predicates.Text.Pieces

namespace Predicates

/-- A path starts at the current place, at the root, or at the other root that exactly two strokes
denote. -/
inductive PathStart where
  | here
  | root
  | otherRoot
  deriving DecidableEq

namespace PathStart

/-- Three strokes and more denote the same root as one. -/
def ofText (text : List Char) : PathStart :=
  match (text.takeWhile (· = '/')).length with
  | 0 => .here
  | 2 => .otherRoot
  | _ => .root

def text : PathStart → String
  | .here => ""
  | .root => "/"
  | .otherRoot => "//"

end PathStart

/-- A path is the row of names that lead from its start to a file. -/
structure FilePath where
  start : PathStart
  names : List String
  deriving DecidableEq

namespace FilePath

/-- Empty names and single points lead nowhere. -/
def ofText (text : String) : FilePath :=
  ⟨.ofText text.toList,
    ((cutAt '/' text.toList).map String.ofList).filter fun name => name ≠ "" && name ≠ "."⟩

/-- The current place itself is written as a single point. -/
def text (path : FilePath) : String :=
  if path = ⟨.here, []⟩ then "." else path.start.text ++ String.intercalate "/" path.names

def child (path : FilePath) (name : String) : FilePath :=
  { path with names := path.names ++ [name] }

end FilePath

end Predicates
