/-
This file reads whole numbers from text.
-/

import Predicates.Text.Blank
import Predicates.Text.DecimalDigit

namespace Predicates

/-- Reading and writing a number in decimal is refused beyond this many digits. -/
def digitLimit : Nat := 4300

def tooManyDigitsMessage (count : Nat) : String :=
  s!"Exceeds the limit ({digitLimit} digits) for integer string conversion: " ++
    s!"value has {count} digits; use sys.set_int_max_str_digits() to increase the limit"

/-- Single low lines may stand between digits, and this function returns the digits alone. -/
def groupedDigits? (afterDigit : Bool) : List Char → Option (List Char)
  | [] => if afterDigit then some [] else none
  | character :: rest =>
    if isDecimalDigit character then (groupedDigits? true rest).map (character :: ·)
    else if character = '_' && afterDigit then groupedDigits? false rest
    else none

def readNatural? (characters : List Char) : Option Nat :=
  match groupedDigits? false characters with
  | some digits => if digitLimit < digits.length then none else some (digitsValue digits)
  | none => none

/-- A sign may stand before the digits. -/
def readInteger? (characters : List Char) : Option Int :=
  match characters with
  | '-' :: rest => (readNatural? rest).map fun value => -(value : Int)
  | '+' :: rest => (readNatural? rest).map Int.ofNat
  | _ => (readNatural? characters).map Int.ofNat

end Predicates
