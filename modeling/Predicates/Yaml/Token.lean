/-
This file holds the tokens of a YAML text and reads those that are made of names.
-/

import Predicates.Yaml.Scalar

namespace Predicates.Yaml

inductive Directive where
  | version (major : Nat)
  | tagHandle (handle replacement : String)
  | reserved
  deriving DecidableEq

/-- The starts and ends of blocks are not written, and they follow from the indentation. A text
that cannot be divided to its end has an unreadable token there. -/
inductive Token where
  | directive (content : Directive)
  | documentStart
  | documentEnd
  | blockSequenceStart
  | blockMappingStart
  | blockEnd
  | flowSequenceStart
  | flowSequenceEnd
  | flowMappingStart
  | flowMappingEnd
  | blockEntry
  | flowEntry
  | key
  | value
  | alias (name : String)
  | anchor (name : String)
  | tag (handle : Option String) (suffix : String)
  | scalar (plain : Bool) (text : String)
  | unreadable (fault : Fault)
  deriving DecidableEq

namespace Token

/-- The name of an anchor or alias ends before a blank or before one of a few marks. -/
def readName (source : Source) : Except Fault (String × Source) :=
  let (name, after) := source.takeWhile isNameCharacter
  let ends := endsWord (after.peek? 0) ||
    (after.peek? 0).any fun mark => ['?', ':', ',', ']', '\x7d', '%', '@', '\x60'].contains mark
  if name.isEmpty || !ends then refuse .badAnchor else .ok (String.ofList name, after)

def isTagCharacter (character : Char) : Bool :=
  character.isAlphanum ||
    ['-', ';', '/', '?', ':', '@', '&', '=', '+', '$', ',', '_', '.', '!', '~', '*', '\x27', '(',
      ')', '[', ']'].contains character

/-- An escaped octet is a percent sign with two hexadecimal digits. -/
def readOctet? : List Char → Option UInt8
  | '%' :: high :: low :: _ => do
    let highValue ← Numeral.hexadecimalDigit? high
    let lowValue ← Numeral.hexadecimalDigit? low
    return (16 * highValue + lowValue).toUInt8
  | _ => none

/-- A row of escaped octets writes characters in their usual encoding. -/
def readOctets : Nat → Source → List UInt8 × Source
  | 0, source => ([], source)
  | count + 1, source =>
    match readOctet? source.rest with
    | none => ([], source)
    | some octet =>
      let (others, after) := readOctets count (source.skip 3)
      (octet :: others, after)

def readTagPieces : Nat → Source → Except Fault (String × Source)
  | 0, source => .ok ("", source)
  | count + 1, source =>
    let (plain, after) := source.takeWhile isTagCharacter
    if after.peek? 0 = some '%' then do
      let (octets, afterOctets) := readOctets after.rest.length after
      let escaped ← (String.fromUTF8? ⟨octets.toArray⟩).elim (refuse .badTag) .ok
      let continues := !octets.isEmpty
      if continues then
        let (others, afterOthers) ← readTagPieces count afterOctets
        return (String.ofList plain ++ escaped ++ others, afterOthers)
      else refuse .badTag
    else .ok (String.ofList plain, after)

def readTagText (source : Source) : Except Fault (String × Source) := do
  let (text, after) ← readTagPieces (source.rest.length + 1) source
  if text.isEmpty then refuse .badTag else return (text, after)

/-- A handle is one mark, or a name between two marks. -/
def readTagHandle (source : Source) : Except Fault (String × Source) :=
  if source.peek? 0 ≠ some '!' then refuse .badTag
  else if source.peek? 1 = some ' ' then .ok ("!", source.skip 1)
  else
    let name := (source.rest.drop 1).takeWhile isNameCharacter
    if source.peek? (name.length + 1) = some '!' then
      .ok (String.ofList ('!' :: name ++ ['!']), source.skip (name.length + 2))
    else refuse .badTag

/-- A second mark before the end of the word shows that the tag has a handle of its own. -/
def hasHandle (source : Source) : Bool :=
  ((source.rest.drop 1).takeWhile fun character => !endsMark (some character)).contains '!'

def readTag (source : Source) : Except Fault (Token × Source) := do
  let (token, after) ←
    (if source.peek? 1 = some '<' then do
      let (text, after) ← readTagText (source.skip 2)
      if after.peek? 0 = some '>' then return (Token.tag none text, after.skip 1)
      else refuse .badTag
    else if endsWord (source.peek? 1) then return (Token.tag none "!", source.skip 1)
    else if hasHandle source then do
      let (handle, afterHandle) ← readTagHandle source
      let (text, after) ← readTagText afterHandle
      return (Token.tag (some handle) text, after)
    else do
      let (text, after) ← readTagText (source.skip 1)
      return (Token.tag (some "!") text, after))
  if endsMark (after.peek? 0) then return (token, after) else refuse .badTag

/-- The parts of a version are limited like other numbers. -/
def readNumber (source : Source) : Except Fault (Nat × Source) :=
  let (digits, after) := source.takeWhile Char.isDigit
  if digits.isEmpty then refuse .badDirective
  else if digitLimit < digits.length then .error (.tooManyDigits digits.length)
  else .ok (Numeral.valueIn 10 digits, after)

def readVersion (source : Source) : Except Fault (Directive × Source) := do
  let (major, afterMajor) ← readNumber source.skipSpaces
  if afterMajor.peek? 0 ≠ some '.' then refuse .badDirective
  let (_, after) ← readNumber (afterMajor.skip 1)
  if endsMark (after.peek? 0) then return (.version major, after) else refuse .badDirective

def readHandleDirective (source : Source) : Except Fault (Directive × Source) := do
  let (handle, afterHandle) ← readTagHandle source.skipSpaces
  if afterHandle.peek? 0 ≠ some ' ' then refuse .badDirective
  let (replacement, after) ← readTagText afterHandle.skipSpaces
  if endsMark (after.peek? 0) then return (.tagHandle handle replacement, after)
  else refuse .badDirective

/-- Directives with other names are passed over. -/
def readDirective (source : Source) : Except Fault (Token × Source) := do
  let (name, afterName) := (source.skip 1).takeWhile isNameCharacter
  if name.isEmpty || !endsMark (afterName.peek? 0) then refuse .badDirective
  let (found, after) ←
    (if name = ['Y', 'A', 'M', 'L'] then readVersion afterName
    else if name = ['T', 'A', 'G'] then readHandleDirective afterName
    else return (Directive.reserved, afterName.skipLine))
  let spaced := after.skipSpaces
  let commented := if spaced.peek? 0 = some '#' then spaced.skipLine else spaced
  if endsLine (commented.peek? 0) then return (.directive found, commented)
  else refuse .badDirective

end Token

end Predicates.Yaml
