/-
This file reads octets that are written in base sixty-four and shows octets as text.
-/

import Predicates.Text.Quoted

namespace Predicates.Octets

/-- Each digit of the base writes six binary places. -/
def sextet? (character : Char) : Option Nat :=
  if character.isUpper then some (character.toNat - 'A'.toNat)
  else if character.isLower then some (character.toNat - 'a'.toNat + 26)
  else if character.isDigit then some (character.toNat - '0'.toNat + 52)
  else if character = '+' then some 62
  else if character = '/' then some 63
  else none

/-- The place counts the digits of the group of four that is being read, and the carry holds the
binary places of them that no octet has yet. Padding ends the text when it fills the group, and
characters that are no digits are passed over. -/
def readGroups (place padding carry : Nat) : List Char → Option (List UInt8)
  | [] => if place = 0 then some [] else none
  | character :: rest =>
    if character = '=' then
      if place < 2 then readGroups place padding carry rest
      else if 4 ≤ place + padding + 1 then some []
      else readGroups place (padding + 1) carry rest
    else
      match sextet? character with
      | none => readGroups place padding carry rest
      | some value =>
        if place = 0 then readGroups 1 0 value rest
        else
          let kept := Nat.pow 4 (3 - place)
          let octet := carry * Nat.pow 4 place + value / kept
          (readGroups ((place + 1) % 4) 0 (value % kept) rest).map (octet.toUInt8 :: ·)

/-- The text is written in the basic Latin block. -/
def read? (text : List Char) : Option (List UInt8) :=
  if text.all fun character => character.toNat < 0x80 then readGroups 0 0 0 text else none

/-- Octets of the basic Latin block are shown like characters. -/
def escape (closing : Char) (octet : UInt8) : List Char :=
  if octet < 0x80 then Quoted.escape closing (Char.ofNat octet.toNat)
  else Quoted.codeEscape octet.toNat

/-- The letter in front tells octets from text. -/
def text (octets : List UInt8) : String :=
  let closing := Quoted.mark (octets.map fun octet => Char.ofNat octet.toNat)
  String.ofList ('b' :: closing :: octets.flatMap (escape closing) ++ [closing])

end Predicates.Octets
