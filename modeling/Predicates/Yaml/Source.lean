/-
This file walks over the characters of a YAML text.
-/

namespace Predicates.Yaml

/-- Columns count from zero, and the index counts all characters before the place. -/
structure Place where
  index : Nat
  line : Nat
  column : Nat
  deriving DecidableEq

def isBreak (character : Char) : Bool :=
  character = '\n' || character = '\x85' || character = '\u2028' || character = '\u2029'

def byteOrderMark : Char := '\uFEFF'

/-- A byte order mark takes no column. -/
def Place.after (place : Place) (character : Char) : Place :=
  if isBreak character then ⟨place.index + 1, place.line + 1, 0⟩
  else if character = byteOrderMark then ⟨place.index + 1, place.line, place.column⟩
  else ⟨place.index + 1, place.line, place.column + 1⟩

structure Source where
  rest : List Char
  place : Place
  deriving DecidableEq

/-- A carriage return, alone or before a line feed, is a line feed. -/
def unifyBreaks : List Char → List Char
  | [] => []
  | '\r' :: '\n' :: rest => '\n' :: unifyBreaks rest
  | '\r' :: rest => '\n' :: unifyBreaks rest
  | character :: rest => character :: unifyBreaks rest

/-- Controls other than tabs and line breaks do not occur in a text. -/
def isAllowed (character : Char) : Bool :=
  let code := character.toNat
  code = 0x09 || code = 0x0A || code = 0x0D || code = 0x85 || (0x20 ≤ code && code ≤ 0x7E) ||
    (0xA0 ≤ code && code ≤ 0xD7FF) || (0xE000 ≤ code && code ≤ 0xFFFD) || 0x10000 ≤ code

namespace Source

def ofText (text : String) : Source :=
  ⟨unifyBreaks text.toList, ⟨0, 0, 0⟩⟩

def column (source : Source) : Nat := source.place.column

def peek? (source : Source) (offset : Nat) : Option Char :=
  source.rest[offset]?

/-- The next characters are passed over. -/
def skip (source : Source) (count : Nat) : Source :=
  ⟨source.rest.drop count, (source.rest.take count).foldl Place.after source.place⟩

/-- The longest run of accepted characters is taken. -/
def takeWhile (source : Source) (accepts : Char → Bool) : List Char × Source :=
  let taken := source.rest.takeWhile accepts
  (taken, source.skip taken.length)

def skipWhile (source : Source) (accepts : Char → Bool) : Source :=
  (source.takeWhile accepts).2

def skipSpaces (source : Source) : Source :=
  source.skipWhile fun character => character = ' '

def skipLine (source : Source) : Source :=
  source.skipWhile fun character => !isBreak character

/-- A break is returned as the text that it stands for. -/
def takeBreak? (source : Source) : Option (Char × Source) :=
  match source.rest with
  | [] => none
  | character :: _ =>
    if character = '\u2028' || character = '\u2029' then some (character, source.skip 1)
    else if isBreak character then some ('\n', source.skip 1)
    else none

end Source

/-- The end of the text counts as the end of its last line. -/
def endsLine : Option Char → Bool
  | none => true
  | some character => isBreak character

def endsMark : Option Char → Bool
  | none => true
  | some character => character = ' ' || isBreak character

def endsWord : Option Char → Bool
  | none => true
  | some character => character = ' ' || character = '\t' || isBreak character

/-- Three dashes or points at the start of a line separate documents when a word ends behind
them. -/
def Source.startsMarker (source : Source) (character : Char) : Bool :=
  source.rest.take 3 = [character, character, character] && endsWord (source.peek? 3)

def Source.startsAnyMarker (source : Source) : Bool :=
  source.startsMarker '-' || source.startsMarker '.'

/-- Names of anchors and directives are made of these characters. -/
def isNameCharacter (character : Char) : Bool :=
  character.isAlphanum || character = '-' || character = '_'

end Predicates.Yaml
