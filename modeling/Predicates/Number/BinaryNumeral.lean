/-
This file reads binary numbers that are written in decimal notation.
-/

import Predicates.Number.BinaryDecimal
import Predicates.Text.Numeral

namespace Predicates.Binary64

/-- An exponent can be left out, and its sign too. -/
def exponent? : List Char → Option Int
  | [] => some 0
  | mark :: rest =>
    let digits := Numeral.unsigned rest
    if (mark = 'e' || mark = 'E') && !digits.isEmpty && digits.all Char.isDigit then
      some (Numeral.signed (Numeral.isNegative rest) (Numeral.valueIn 10 digits))
    else none

/-- The digits behind the point lower the exponent. -/
def pointNumber? (text : List Char) : Option Binary64 :=
  let whole := text.takeWhile Char.isDigit
  let afterWhole := text.dropWhile Char.isDigit
  let afterPoint := if afterWhole.head? = some '.' then afterWhole.drop 1 else afterWhole
  let fraction := if afterWhole.head? = some '.' then afterPoint.takeWhile Char.isDigit else []
  if (whole ++ fraction).isEmpty then none
  else
    (exponent? (afterPoint.drop fraction.length)).map fun exponent =>
      ofDecimalNotation false (Numeral.valueIn 10 (whole ++ fraction))
        (exponent - fraction.length)

def infinityNames : List (List Char) :=
  [['i', 'n', 'f'], ['i', 'n', 'f', 'i', 'n', 'i', 't', 'y']]

def notNumberName : List Char := ['n', 'a', 'n']

def magnitude? (text : List Char) : Option Binary64 :=
  let name := text.map Char.toLower
  if infinityNames.contains name then some (.infinity false)
  else if name = notNumberName then some .nan
  else pointNumber? text

/-- Spaces may stand around the number, and a sign before it. -/
def read? (text : List Char) : Option Binary64 :=
  let number := Numeral.bare text
  (magnitude? (Numeral.unsigned number)).map fun magnitude =>
    if Numeral.isNegative number then magnitude.negate else magnitude

end Predicates.Binary64
