/-
This file holds the data that a YAML text can stand for.
-/

import Predicates.Number
import Predicates.Text.Octets
import Predicates.Yaml.Fault
import Predicates.Yaml.Graph

namespace Predicates.Yaml

/-- A value that is not a number is the common one or that of a single node. A mapping is known by
its node, and the other collections are checked but not kept. -/
inductive Data where
  | null
  | bool (value : Bool)
  | int (value : Int)
  | float (value : Binary64)
  | notNumber (origin : Option NodeId)
  | text (content : String)
  | octets (content : List UInt8)
  | instant (value : Instant)
  | mapping (id : NodeId)
  | other
  deriving DecidableEq

abbrev DataEntry := Data × Data

namespace Data

def number? : Data → Option Number
  | .bool value => some (.integer (if value then 1 else 0))
  | .int value => some (.integer value)
  | .float value => some (.binary value)
  | _ => none

/-- Keys of numbers and truth values are the same when their numbers are equal. -/
def sameKey (left right : Data) : Bool :=
  match left, right with
  | .instant leftInstant, .instant rightInstant => leftInstant.isSame rightInstant
  | _, _ =>
    match left.number?, right.number? with
    | some leftNumber, some rightNumber => leftNumber.order? rightNumber = some .eq
    | _, _ => left = right

/-- A later entry of the same key gives its value to the first one. -/
def insert (entries : List DataEntry) (key value : Data) : List DataEntry :=
  if entries.any fun entry => entry.1.sameKey key then
    entries.map fun entry => if entry.1.sameKey key then (entry.1, value) else entry
  else entries ++ [(key, value)]

def isCollection : Data → Bool
  | .mapping _ => true
  | .other => true
  | _ => false

end Data

end Predicates.Yaml
