/-
This file holds decimal numbers with their exponents, infinities and payloads, and the text
that reads and writes them.
-/

import Predicates.Text.Blank
import Predicates.Text.DecimalDigit

namespace Predicates

/-- A finite number is its coefficient times a power of ten, and equal numbers may differ in
their exponents. What is not a number is told apart by the object that holds it. -/
inductive Decimal where
  | finite (negative : Bool) (coefficient : Nat) (exponent : Int)
  | infinity (negative : Bool)
  | quietNaN (negative : Bool) (payload : Nat) (object : Nat := 0)
  | signalingNaN (negative : Bool) (payload : Nat) (object : Nat := 0)
  deriving DecidableEq

namespace Decimal

def ofInt (value : Int) : Decimal :=
  .finite (value < 0) value.natAbs 0

def isNaN : Decimal → Bool
  | .quietNaN .. => true
  | .signalingNaN .. => true
  | _ => false

def isSignaling : Decimal → Bool
  | .signalingNaN .. => true
  | _ => false

/-- The adjusted exponent is the power of ten of the leading digit. -/
def adjustedExponent (coefficient : Nat) (exponent : Int) : Int :=
  exponent + decimalPlaces coefficient - 1

/-- An exponent is an optional sign and at least one digit. -/
def readExponent? (characters : List Char) : Option Int :=
  let (negative, digits) :=
    match characters with
    | '-' :: rest => (true, rest)
    | '+' :: rest => (false, rest)
    | _ => (false, characters)
  if digits.isEmpty || !digits.all isDecimalDigit then none
  else if negative then some (-(digitsValue digits : Int))
  else some (digitsValue digits)

/-- The point may stand anywhere among the digits, and an exponent may follow them. -/
def readFinite? (negative : Bool) (characters : List Char) : Option Decimal :=
  let whole := characters.takeWhile isDecimalDigit
  let afterWhole := characters.dropWhile isDecimalDigit
  let (fraction, afterFraction) :=
    match afterWhole with
    | '.' :: rest => (rest.takeWhile isDecimalDigit, rest.dropWhile isDecimalDigit)
    | _ => ([], afterWhole)
  let digits := whole ++ fraction
  let build := fun (exponent : Int) =>
    Decimal.finite negative (digitsValue digits) (exponent - fraction.length)
  if digits.isEmpty then none
  else
    match afterFraction with
    | [] => some (build 0)
    | mark :: rest => if mark = 'e' || mark = 'E' then (readExponent? rest).map build else none

def readUnsigned? (negative : Bool) (characters : List Char) : Option Decimal :=
  match characters.map Char.toLower with
  | ['i', 'n', 'f'] => some (.infinity negative)
  | ['i', 'n', 'f', 'i', 'n', 'i', 't', 'y'] => some (.infinity negative)
  | 'n' :: 'a' :: 'n' :: payload =>
    if payload.all isDecimalDigit then some (.quietNaN negative (digitsValue payload)) else none
  | 's' :: 'n' :: 'a' :: 'n' :: payload =>
    if payload.all isDecimalDigit then some (.signalingNaN negative (digitsValue payload))
    else none
  | _ => readFinite? negative characters

/-- Blanks around the text and low lines inside it are passed over. -/
def ofText? (text : String) : Option Decimal :=
  match (stripBlanks text.toList).filter (· ≠ '_') with
  | '-' :: rest => readUnsigned? true rest
  | '+' :: rest => readUnsigned? false rest
  | characters => readUnsigned? false characters

def exponentText (exponent : Int) : List Char :=
  'E' :: (if exponent < 0 then '-' else '+') :: Nat.toDigits 10 exponent.natAbs

/-- The exponent is written only when it is positive or when the number would start with more
than five zeros. -/
def finiteText (coefficient : Nat) (exponent : Int) : List Char :=
  let digits := Nat.toDigits 10 coefficient
  let adjusted := adjustedExponent coefficient exponent
  let point := (digits.length : Int) + exponent
  if exponent ≤ 0 && -6 ≤ adjusted then
    if exponent = 0 then digits
    else if 0 < point then digits.take point.toNat ++ '.' :: digits.drop point.toNat
    else '0' :: '.' :: List.replicate (-point).toNat '0' ++ digits
  else
    digits.take 1 ++ (if digits.length ≤ 1 then [] else '.' :: digits.drop 1) ++
      exponentText adjusted

def payloadText (payload : Nat) : String :=
  if payload = 0 then "" else toString payload

def text (value : Decimal) : String :=
  let sign := fun (negative : Bool) => if negative then "-" else ""
  match value with
  | .finite negative coefficient exponent =>
    sign negative ++ String.ofList (finiteText coefficient exponent)
  | .infinity negative => sign negative ++ "Infinity"
  | .quietNaN negative payload _ => sign negative ++ "NaN" ++ payloadText payload
  | .signalingNaN negative payload _ => sign negative ++ "sNaN" ++ payloadText payload

end Decimal

end Predicates
