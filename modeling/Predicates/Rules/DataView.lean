/-
This file says what rule files see of the data that a reader finds in their texts.
-/

import Predicates.Text.Integer
import Predicates.Value

namespace Predicates

/-- A key is a text, a whole number, or something else with the text that is written for it. -/
inductive DataKey where
  | text (content : String)
  | integer (value : Int)
  | other (written : String)
  deriving DecidableEq

/-- A number with too many digits cannot be written. -/
def DataKey.name? : DataKey → Option String
  | .text content => some content
  | .integer value =>
    if digitLimit < decimalPlaces value.natAbs then none else some (toString value)
  | .other written => some written

/-- A piece of data is null, a text, a mapping with its entries in order, or something else. The
values of a mapping are pieces of data again, so it may stand for one of its own values. -/
inductive DataView (Data : Type) where
  | null
  | text (content : String)
  | mapping (entries : List (DataKey × Data))
  | other

/-- A reader finds the data that a text stands for, and shows what each piece of data is. -/
structure Reader (Fault Data : Type) where
  read : String → Except Fault Data
  view : Data → DataView Data

/-- The values of parameters are seen as the data of files is. -/
def Value.view : Value → DataView Value
  | .null => .null
  | .string text => .text text
  | .dict entries => .mapping (entries.map fun entry => (.text entry.1, entry.2))
  | _ => .other

end Predicates
