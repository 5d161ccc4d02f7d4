/-
This file decides which kind of value a YAML scalar is.
-/

import Predicates.Text.Numeral
import Predicates.Text.Pieces
import Predicates.Yaml.Instant

namespace Predicates.Yaml

inductive Tag where
  | null
  | bool
  | int
  | float
  | timestamp
  | merge
  | value
  | text
  | sequence
  | mapping
  | set
  | pairs
  | orderedPairs
  | binary
  | unknown (name : String)
  deriving DecidableEq

namespace Resolution

def boolTexts : List (String × Bool) :=
  [("yes", true), ("Yes", true), ("YES", true), ("no", false), ("No", false), ("NO", false),
    ("true", true), ("True", true), ("TRUE", true), ("false", false), ("False", false),
    ("FALSE", false), ("on", true), ("On", true), ("ON", true), ("off", false), ("Off", false),
    ("OFF", false)]

def nullTexts : List String :=
  ["~", "null", "Null", "NULL"]

/-- These marks start other parts of the notation and have no kind of their own. -/
def markTexts : List String :=
  ["!", "&", "*"]

def infinityTexts : List (List Char) :=
  [['.', 'i', 'n', 'f'], ['.', 'I', 'n', 'f'], ['.', 'I', 'N', 'F']]

def notNumberTexts : List (List Char) :=
  [['.', 'n', 'a', 'n'], ['.', 'N', 'a', 'N'], ['.', 'N', 'A', 'N']]

/-- Low lines may be mixed with the digits. -/
def isDigitOrLine (character : Char) : Bool :=
  character.isDigit || character = '_'

def startsWithDigit (text : List Char) : Bool :=
  text.head?.any Char.isDigit

/-- An exponent needs a sign. -/
def isExponent (text : List Char) : Bool :=
  match text with
  | [] => true
  | mark :: sign :: digits =>
    (mark = 'e' || mark = 'E') && (sign = '+' || sign = '-') && !digits.isEmpty &&
      digits.all Char.isDigit
  | _ => false

/-- A place in base sixty has one digit or two digits below sixty. -/
def isBaseSixtyPlace (place : List Char) : Bool :=
  match place with
  | [digit] => digit.isDigit
  | [tens, digit] => tens.isDigit && tens ≤ '5' && digit.isDigit
  | _ => false

def isBaseSixtyInt (text : List Char) : Bool :=
  match cutAt ':' text with
  | first :: second :: others =>
    startsWithDigit first && first.head? ≠ some '0' && first.all isDigitOrLine &&
      (second :: others).all isBaseSixtyPlace
  | _ => false

/-- Only the last place of a fraction in base sixty has a point. -/
def isBaseSixtyFloat (text : List Char) : Bool :=
  match cutAt ':' text with
  | first :: second :: others =>
    let places := second :: others
    let last := places.getLastD []
    startsWithDigit first && first.all isDigitOrLine &&
      places.dropLast.all isBaseSixtyPlace &&
      isBaseSixtyPlace (last.takeWhile (· ≠ '.')) &&
      (match last.dropWhile (· ≠ '.') with
        | [] => false
        | _ :: fraction => fraction.all isDigitOrLine)
  | _ => false

def isPointFloat (text : List Char) : Bool :=
  startsWithDigit text &&
    (match text.dropWhile isDigitOrLine with
      | '.' :: fraction => isExponent (fraction.dropWhile isDigitOrLine)
      | _ => false)

def isLeadingPointFloat (text : List Char) : Bool :=
  match text with
  | '.' :: fraction =>
    startsWithDigit fraction && isExponent (fraction.dropWhile isDigitOrLine)
  | _ => false

def isFloat (text : List Char) : Bool :=
  let digits := Numeral.unsigned text
  isPointFloat digits || isLeadingPointFloat text || isBaseSixtyFloat digits ||
    infinityTexts.contains digits || notNumberTexts.contains text

def isBinaryDigit (character : Char) : Bool :=
  character = '0' || character = '1' || character = '_'

def isOctalDigit (character : Char) : Bool :=
  ('0' ≤ character && character ≤ '7') || character = '_'

def isHexadecimalDigit (character : Char) : Bool :=
  character.isDigit || ('a' ≤ character && character ≤ 'f') ||
    ('A' ≤ character && character ≤ 'F') || character = '_'

def isUnsignedInt (text : List Char) : Bool :=
  match text with
  | ['0'] => true
  | '0' :: 'b' :: digits => !digits.isEmpty && digits.all isBinaryDigit
  | '0' :: 'x' :: digits => !digits.isEmpty && digits.all isHexadecimalDigit
  | '0' :: digits => digits.all isOctalDigit
  | first :: digits => (first.isDigit && digits.all isDigitOrLine) || isBaseSixtyInt text
  | [] => false

def isInt (text : List Char) : Bool :=
  isUnsignedInt (Numeral.unsigned text)

/-- A line break at the end does not matter. -/
def withoutLastBreak (text : List Char) : List Char :=
  if text.getLast? = some '\n' then text.dropLast else text

def tagOf (characters : List Char) : Tag :=
  let text := String.ofList characters
  if (boolTexts.lookup text).isSome then .bool
  else if isFloat characters then .float
  else if isInt characters then .int
  else if text = "<<" then .merge
  else if nullTexts.contains text then .null
  else if Instant.isWritten characters then .timestamp
  else if text = "=" then .value
  else if markTexts.contains text then .unknown "yaml"
  else .text

/-- The first kind that fits the text is taken, and the empty text is null. -/
def resolve (text : String) : Tag :=
  if text.isEmpty then .null else tagOf (withoutLastBreak text.toList)

end Resolution

namespace Tag

def isCollection (tag : Tag) : Bool :=
  [Tag.sequence, .mapping, .set, .pairs, .orderedPairs].contains tag

def isScalar (tag : Tag) : Bool :=
  [Tag.null, .bool, .int, .float, .timestamp, .text, .binary].contains tag

/-- The tags of the language stand in this namespace. -/
def standardNamespace : String := "tag:yaml.org,2002:"

def standardTags : List (String × Tag) :=
  [("null", .null), ("bool", .bool), ("int", .int), ("float", .float),
    ("timestamp", .timestamp), ("merge", .merge), ("value", .value), ("str", .text),
    ("seq", .sequence), ("map", .mapping), ("set", .set), ("pairs", .pairs),
    ("omap", .orderedPairs), ("binary", .binary)].map
    fun entry => (standardNamespace ++ entry.1, entry.2)

def ofName (name : String) : Tag :=
  (standardTags.lookup name).getD (.unknown name)

/-- The mark alone asks for the resolution of a plain scalar. -/
def ofScalar (tag : Option String) (plain : Bool) (text : String) : Tag :=
  match tag with
  | none => if plain then Resolution.resolve text else .text
  | some name => if name = "!" then Resolution.resolve text else ofName name

def ofCollection (tag : Option String) (standard : Tag) : Tag :=
  match tag with
  | none => standard
  | some name => if name = "!" then standard else ofName name

def ofSequence (tag : Option String) : Tag :=
  ofCollection tag .sequence

def ofMapping (tag : Option String) : Tag :=
  ofCollection tag .mapping

end Tag

end Predicates.Yaml
