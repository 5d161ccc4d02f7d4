/-
This file reads whole numbers that are written with a sign and in one of several bases.
-/

import Predicates.Text.Integer

namespace Predicates

/-- A text is no whole number, or it is one with too many digits. -/
inductive NumeralFault where
  | malformed
  | tooManyDigits (count : Nat)
  deriving DecidableEq

namespace Numeral

def isNegative (text : List Char) : Bool :=
  text.head? = some '-'

def unsigned (text : List Char) : List Char :=
  match text with
  | '+' :: rest => rest
  | '-' :: rest => rest
  | _ => text

def signed (negative : Bool) (value : Int) : Int :=
  if negative then -value else value

def hexadecimalDigit? (digit : Char) : Option Nat :=
  if digit.isDigit then some (digit.toNat - '0'.toNat)
  else if 'a' ≤ digit && digit ≤ 'f' then some (digit.toNat - 'a'.toNat + 10)
  else if 'A' ≤ digit && digit ≤ 'F' then some (digit.toNat - 'A'.toNat + 10)
  else none

def isDigit (base : Nat) (character : Char) : Bool :=
  (hexadecimalDigit? character).any fun value => value < base

def valueIn (base : Nat) (digits : List Char) : Nat :=
  digits.foldl (fun value digit => base * value + (hexadecimalDigit? digit).getD 0) 0

/-- Past the basic Latin block, blanks stand for spaces and the digits of all scripts for decimal
digits. -/
def unify (character : Char) : Char :=
  if character.toNat < 0x80 then character
  else if isBlank character then ' '
  else
    match digitValue? character with
    | some value => Char.ofNat ('0'.toNat + value)
    | none => character

def isSpace (character : Char) : Bool :=
  character = ' ' || ('\t' ≤ character && character ≤ '\r')

/-- Spaces may stand around a number. -/
def bare (text : List Char) : List Char :=
  (((text.map unify).dropWhile isSpace).reverse.dropWhile isSpace).reverse

/-- These letters behind a zero tell the base. -/
def baseLetters : List (Nat × List Char) :=
  [(2, ['b', 'B']), (8, ['o', 'O']), (16, ['x', 'X'])]

def withoutMark (base : Nat) (text : List Char) : List Char :=
  match text with
  | '0' :: letter :: rest =>
    if ((baseLetters.lookup base).getD []).contains letter then rest else text
  | _ => text

/-- Only decimal numbers are limited, and the limit is checked before the text behind the
digits. -/
def read (base : Nat) (text : List Char) : Except NumeralFault Int :=
  let number := bare text
  let body := withoutMark base (unsigned number)
  let digits := body.takeWhile (isDigit base)
  if base = 10 && digitLimit < digits.length then .error (.tooManyDigits digits.length)
  else if digits.isEmpty || digits.length < body.length then .error .malformed
  else .ok (signed (isNegative number) (valueIn base digits))

end Numeral

end Predicates
