/-
This file reads the data that the text of a YAML scalar stands for.
-/

import Predicates.Number.BinaryArithmetic
import Predicates.Number.BinaryNumeral
import Predicates.Text.LowerCase
import Predicates.Yaml.Data

namespace Predicates.Yaml

namespace ScalarData

/-- Low lines do not matter in numbers. -/
def withoutLines (text : String) : List Char :=
  text.toList.filter (· ≠ '_')

def whole (base : Nat) (text : List Char) : Except Fault Int :=
  (Numeral.read base text).mapError fun
    | .malformed => .notInteger base (String.ofList text)
    | .tooManyDigits count => .tooManyDigits count

/-- The places of a number in base sixty are numbers of their own. -/
def sixtyWhole (places : List (List Char)) : Except Fault Int := do
  let values ← places.mapM (whole 10)
  return values.foldl (fun value place => 60 * value + place) 0

def unsignedInteger (text : List Char) : Except Fault Int :=
  match text with
  | [] => .error .emptyNumber
  | ['0'] => .ok 0
  | '0' :: 'b' :: digits => whole 2 digits
  | '0' :: 'x' :: digits => whole 16 digits
  | '0' :: _ => whole 8 text
  | _ =>
    if text.contains ':' then sixtyWhole (cutAt ':' text) else whole 10 text

def integer (text : String) : Except Fault Data := do
  let number := withoutLines text
  let value ← unsignedInteger (Numeral.unsigned number)
  return .int (Numeral.signed (Numeral.isNegative number) value)

def fraction (text : List Char) : Except Fault Binary64 :=
  match Binary64.read? text with
  | some value => .ok value
  | none => .error (.notFloat (String.ofList text))

/-- The places are added from the last one on. The weight of a place is rounded, and so are its
product with the place and the sum. -/
def sixtySum (total : Binary64) (weight : Nat) : List Binary64 → Except Fault Binary64
  | [] => .ok total
  | place :: further =>
    match Binary64.ofNat? weight with
    | some factor => sixtySum (total.add (place.multiply factor)) (60 * weight) further
    | none => .error .placeTooHigh

def unsignedFloat (text : List Char) : Except Fault Binary64 := do
  if text.contains ':' then
    let places ← (cutAt ':' text).mapM fraction
    sixtySum (.zero false) 1 places.reverse
  else fraction text

def infinityName : List Char := ['.', 'i', 'n', 'f']

def notNumberName : List Char := ['.', 'n', 'a', 'n']

/-- A value that is not a number is common to all places when it is written by its own name. -/
def float (id : NodeId) (text : String) : Except Fault Data := do
  let number := lowerCase (withoutLines text)
  let negative := Numeral.isNegative number
  let magnitude := Numeral.unsigned number
  if number.isEmpty then throw .emptyNumber
  else if magnitude = infinityName then return .float (.infinity negative)
  else if magnitude = notNumberName then return .notNumber none
  else
    match ← unsignedFloat magnitude with
    | .nan _ => return .notNumber (some id)
    | value => return .float (if negative then value.negate else value)

def instant (text : String) : Except Fault Data :=
  match Instant.read? (Resolution.withoutLastBreak text.toList) with
  | some value => (value.check.map fun _ => Data.instant value).mapError .calendar
  | none => .error .notInstant

/-- A scalar whose tag was not found from its text must still fit the tag. -/
def bool (text : String) : Except Fault Data :=
  let name := String.ofList (lowerCase text.toList)
  match Resolution.boolTexts.lookup name with
  | some value => .ok (.bool value)
  | none => .error (.notTruthValue name)

def octets (text : String) : Except Fault Data :=
  match Octets.read? text.toList with
  | some content => .ok (.octets content)
  | none => refuse .badOctets

def ofText (tag : Tag) (id : NodeId) (text : String) : Except Fault Data :=
  match tag with
  | .null => .ok .null
  | .bool => bool text
  | .int => integer text
  | .float => float id text
  | .timestamp => instant text
  | .text => .ok (.text text)
  | .binary => octets text
  | _ => refuse .unknownTag

end ScalarData

end Predicates.Yaml
