/-
This file writes text between quotation marks, with escapes for what cannot be shown.
-/

import Predicates.Text.Printable

namespace Predicates.Quoted

def singleMark : Char := '\x27'

def doubleMark : Char := '\x22'

def escapeMark : Char := '\x5c'

/-- Single marks are used unless the text holds single marks and no double ones. -/
def mark (characters : List Char) : Char :=
  if characters.contains singleMark && !characters.contains doubleMark then doubleMark
  else singleMark

/-- Code points are written in base sixteen with leading zeros. -/
def hexadecimal (width code : Nat) : List Char :=
  let digits := Nat.toDigits 16 code
  List.replicate (width - digits.length) '0' ++ digits

/-- The shortest escape that fits the code point is chosen. -/
def codeEscape (code : Nat) : List Char :=
  if code < 0x100 then escapeMark :: 'x' :: hexadecimal 2 code
  else if code < 0x10000 then escapeMark :: 'u' :: hexadecimal 4 code
  else escapeMark :: 'U' :: hexadecimal 8 code

def escape (closing character : Char) : List Char :=
  if character = closing || character = escapeMark then [escapeMark, character]
  else if character = '\n' then [escapeMark, 'n']
  else if character = '\r' then [escapeMark, 'r']
  else if character = '\t' then [escapeMark, 't']
  else if isPrintable character then [character]
  else codeEscape character.toNat

def render (characters : List Char) : List Char :=
  let closing := mark characters
  closing :: characters.flatMap (escape closing) ++ [closing]

end Predicates.Quoted

namespace Predicates

/-- Quoted text shows every character that could not be told apart otherwise. -/
def quoted (text : String) : String :=
  String.ofList (Quoted.render text.toList)

end Predicates
