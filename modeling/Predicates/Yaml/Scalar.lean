/-
This file reads the scalars of a YAML text in their plain, quoted and block styles.
-/

import Predicates.Text.Numeral
import Predicates.Yaml.Fault
import Predicates.Yaml.Source

namespace Predicates.Yaml

namespace Source

/-- Breaks, and the spaces before them, are taken as long as the column stays below the limit.
The count bounds the number of lines. -/
def takeIndentedBreaks (limit : Nat) : Nat → Source → List Char × Source
  | 0, source => ([], source)
  | count + 1, source =>
    let spaces := (source.rest.takeWhile fun character => character = ' ').length
    let indented := source.skip (min spaces (limit - source.column))
    match indented.takeBreak? with
    | none => ([], indented)
    | some (lineBreak, after) =>
      let (others, afterOthers) := takeIndentedBreaks limit count after
      (lineBreak :: others, afterOthers)

/-- Blank lines are taken, and the widest one or the first text line gives the indentation. -/
def takeLeadingBreaks : Nat → Source → List Char × Nat × Source
  | 0, source => ([], 0, source)
  | count + 1, source =>
    let indented := source.skipSpaces
    let width := if indented.place.index = source.place.index then 0 else indented.column
    match indented.takeBreak? with
    | none => ([], width, indented)
    | some (lineBreak, after) =>
      let (others, otherWidth, afterOthers) := takeLeadingBreaks count after
      (lineBreak :: others, max width otherWidth, afterOthers)

end Source

/-- The break at the end of a line is folded into a space unless empty lines or another kind of
break follow it. -/
def foldedBreak (lineBreak : Char) (breaks : List Char) : List Char :=
  if lineBreak ≠ '\n' then lineBreak :: breaks
  else if breaks.isEmpty then [' ']
  else breaks

namespace Plain

/-- A plain chunk ends before a blank, before a colon that ends a word, and in flow style before
the characters of that style. -/
def chunk (flow : Bool) : List Char → List Char
  | [] => []
  | character :: rest =>
    let flowMark := fun (other : Char) =>
      flow && (other = ',' || other = '[' || other = ']' || other = '\x7b' || other = '\x7d')
    if endsWord (some character) then []
    else if character = ':' && (endsWord rest.head? || rest.head?.any flowMark) then []
    else if flowMark character || (flow && character = '?') then []
    else character :: chunk flow rest

/-- Empty lines follow a break until a line with text or a document marker begins. -/
def takeBreaks : Nat → Source → Option (List Char) × Source
  | 0, source => (some [], source)
  | count + 1, source =>
    let indented := source.skipSpaces
    match indented.takeBreak? with
    | none => (some [], indented)
    | some (lineBreak, after) =>
      if after.startsAnyMarker then (none, after)
      else
        let (others, afterOthers) := takeBreaks count after
        (others.map (lineBreak :: ·), afterOthers)

/-- The space between two chunks is kept within a line and folded across lines. The scalar has
ended where there is no space. -/
def takeSpace (source : Source) : List Char × Bool × Source :=
  let (spaces, after) := source.takeWhile fun character => character = ' '
  match after.takeBreak? with
  | none => (spaces, false, after)
  | some (lineBreak, afterBreak) =>
    if afterBreak.startsAnyMarker then ([], true, afterBreak)
    else
      match takeBreaks afterBreak.rest.length afterBreak with
      | (none, afterBreaks) => ([], true, afterBreaks)
      | (some breaks, afterBreaks) => (foldedBreak lineBreak breaks, true, afterBreaks)

/-- The chunks of a scalar continue on further lines that are indented deeply enough. The flag
tells whether the scalar passed the end of a line behind its last chunk. -/
def read (flow : Bool) (indent : Nat) : Nat → Source → List Char × Bool × Source
  | 0, source => ([], false, source)
  | count + 1, source =>
    let taken := chunk flow source.rest
    let (space, passedBreak, after) := takeSpace (source.skip taken.length)
    let continues := !space.isEmpty && after.rest.head? ≠ some '#' &&
      (flow || indent ≤ after.column) && !(chunk flow after.rest).isEmpty
    if continues then
      let (others, passedLater, afterOthers) := read flow indent count after
      (taken ++ space ++ others, passedLater, afterOthers)
    else (taken, passedBreak, after)

end Plain

namespace QuotedScalar

/-- These escapes stand for single characters. -/
def escapes : List (Char × Char) :=
  [('0', '\x00'), ('a', '\x07'), ('b', '\x08'), ('t', '\t'), ('\t', '\t'), ('n', '\n'),
    ('v', '\x0b'), ('f', '\x0c'), ('r', '\r'), ('e', '\x1b'), (' ', ' '), ('\x22', '\x22'),
    ('\x5c', '\x5c'), ('/', '/'), ('N', '\x85'), ('_', '\xa0'), ('L', '\u2028'),
    ('P', '\u2029')]

/-- These escapes are followed by a fixed number of hexadecimal digits. -/
def codeWidths : List (Char × Nat) :=
  [('x', 2), ('u', 4), ('U', 8)]

/-- A code is read with the number of its characters. -/
def code? (text : List Char) : Option (Nat × Nat) :=
  match text with
  | [] => none
  | letter :: rest => do
    let width ← codeWidths.lookup letter
    let digits := rest.take width
    if digits.length = width && digits.all (Numeral.isDigit 16) then
      some (Numeral.valueIn 16 digits, width + 1)
    else none

/-- A character past the first plane can be written by two codes of halves. -/
def joined? (high low : Nat) : Option Char :=
  if 0xD800 ≤ high && high < 0xDC00 && 0xDC00 ≤ low && low < 0xE000 then
    some (Char.ofNat (0x10000 + 0x400 * (high - 0xD800) + (low - 0xDC00)))
  else none

def secondHalf? (high : Nat) (text : List Char) : Option (Char × Nat) :=
  match text with
  | '\x5c' :: rest => do
    let (low, count) ← code? rest
    let character ← joined? high low
    return (character, count + 1)
  | _ => none

/-- This character stands for half a character alone. -/
def replacementCharacter : Char := '\uFFFD'

def takeCode (source : Source) : Except Fault (List Char × Source) :=
  match code? source.rest with
  | none => refuse .badEscape
  | some (code, count) =>
    let after := source.skip count
    if code.isValidChar then .ok ([Char.ofNat code], after)
    else
      match secondHalf? code after.rest with
      | some (character, further) => .ok ([character], after.skip further)
      | none =>
        if code < 0x110000 then .ok ([replacementCharacter], after) else .error (.noCharacter code)

/-- Blanks at the starts of lines are dropped, and a document marker may not stand there. -/
def takeBreaks : Nat → Source → Except Fault (List Char × Source)
  | 0, source => .ok ([], source)
  | count + 1, source =>
    if source.startsAnyMarker then refuse .unfinishedQuote
    else
      let indented := source.skipWhile fun character => character = ' ' || character = '\t'
      match indented.takeBreak? with
      | none => .ok ([], indented)
      | some (lineBreak, after) => do
        let (others, afterOthers) ← takeBreaks count after
        return (lineBreak :: others, afterOthers)

/-- Blanks are kept within a line and folded across lines. -/
def takeSpace (source : Source) : Except Fault (List Char × Source) := do
  let (blanks, after) :=
    source.takeWhile fun character => character = ' ' || character = '\t'
  match after.takeBreak? with
  | none => return (blanks, after)
  | some (lineBreak, afterBreak) =>
    let (breaks, afterBreaks) ← takeBreaks (afterBreak.rest.length + 1) afterBreak
    return (foldedBreak lineBreak breaks, afterBreaks)

/-- An escaped break joins two lines without a space. -/
def takeEscape (source : Source) : Except Fault (List Char × Source) :=
  match source.rest with
  | [] => refuse .badEscape
  | character :: _ =>
    match escapes.lookup character with
    | some meaning => .ok ([meaning], source.skip 1)
    | none =>
      if (codeWidths.lookup character).isSome then takeCode source
      else
        match source.takeBreak? with
        | some (_, after) => takeBreaks (after.rest.length + 1) after
        | none => refuse .badEscape

/-- The text behind the opening mark is read up to the closing one. In single quotes the mark is
written twice, and in double quotes it is escaped. -/
def read (mark : Char) : Nat → Source → Except Fault (List Char × Source)
  | 0, _ => refuse .unfinishedQuote
  | count + 1, source =>
    let double := mark = '\x22'
    let continueWith := fun (piece : List Char) (after : Source) => do
      let (others, afterOthers) ← read mark count after
      return (piece ++ others, afterOthers)
    match source.rest with
    | [] => refuse .unfinishedQuote
    | character :: rest =>
      if character = mark then
        if !double && rest.head? = some mark then continueWith [mark] (source.skip 2)
        else .ok ([], source.skip 1)
      else if double && character = '\x5c' then do
        let (piece, after) ← takeEscape (source.skip 1)
        continueWith piece after
      else if endsWord (some character) then do
        let (piece, after) ← takeSpace source
        continueWith piece after
      else continueWith [character] (source.skip 1)

end QuotedScalar

/-- The breaks at the end of a block scalar are dropped, reduced to one, or kept. -/
inductive Chomping where
  | strip
  | clip
  | keep
  deriving DecidableEq

structure BlockHeader where
  chomping : Chomping
  increment : Option Nat

namespace BlockScalar

def chompingOf? : Option Char → Option Chomping
  | some '+' => some .keep
  | some '-' => some .strip
  | _ => none

/-- An indentation is a single digit other than zero. -/
def incrementOf? (character : Option Char) : Except Fault (Option Nat) :=
  match character with
  | some digit =>
    if digit = '0' then refuse .badBlockHeader
    else if digit.isDigit then .ok (some (digit.toNat - '0'.toNat))
    else .ok none
  | none => .ok none

/-- The two indicators may stand in either order. -/
def takeIndicators (source : Source) : Except Fault (BlockHeader × Source) := do
  match chompingOf? (source.peek? 0) with
  | some chomping =>
    match ← incrementOf? (source.peek? 1) with
    | some increment => return (⟨chomping, some increment⟩, source.skip 2)
    | none => return (⟨chomping, none⟩, source.skip 1)
  | none =>
    match ← incrementOf? (source.peek? 0) with
    | some increment =>
      match chompingOf? (source.peek? 1) with
      | some chomping => return (⟨chomping, some increment⟩, source.skip 2)
      | none => return (⟨.clip, some increment⟩, source.skip 1)
    | none => return (⟨.clip, none⟩, source)

/-- Only a comment may follow the indicators on their line. -/
def takeHeader (source : Source) : Except Fault (BlockHeader × Source) := do
  let (header, after) ← takeIndicators source
  if endsMark (after.peek? 0) then
    let spaced := after.skipSpaces
    let commented := if spaced.peek? 0 = some '#' then spaced.skipLine else spaced
    match commented.takeBreak? with
    | some (_, next) => return (header, next)
    | none =>
      if commented.rest.isEmpty then return (header, commented) else refuse .badBlockHeader
  else refuse .badBlockHeader

def isIndented (indent : Nat) (source : Source) : Bool :=
  source.column = indent && !source.rest.isEmpty

def startsBlank (source : Source) : Bool :=
  source.peek? 0 = some ' ' || source.peek? 0 = some '\t'

/-- In folded style a single break between two lines that start with text becomes a space, and
it is dropped before empty lines. -/
def lineJoint (folded : Bool) (lineBreak : Option Char) (breaks : List Char)
    (blankBefore blankAfter : Bool) : List Char :=
  if folded && lineBreak = some '\n' && !blankBefore && !blankAfter then
    if breaks.isEmpty then [' '] else []
  else lineBreak.toList

/-- Lines are taken as long as they stand at the indentation of the scalar. The breaks before a
line belong to the text, and those behind the last line depend on the chomping. -/
def takeLines (folded : Bool) (chomping : Chomping) (indent : Nat) :
    Nat → List Char → Source → List Char × Source
  | 0, _, source => ([], source)
  | count + 1, breaks, source =>
    let (line, afterLine) := source.takeWhile fun character => !isBreak character
    let (lineBreak, next) :=
      match afterLine.takeBreak? with
      | some (lineBreak, next) => (some lineBreak, next)
      | none => (none, afterLine)
    let (laterBreaks, after) := next.takeIndentedBreaks indent (next.rest.length + 1)
    if isIndented indent after then
      let joint := lineJoint folded lineBreak laterBreaks (startsBlank source) (startsBlank after)
      let (others, afterOthers) := takeLines folded chomping indent count laterBreaks after
      (breaks ++ line ++ joint ++ others, afterOthers)
    else
      let lastBreak := if chomping = .strip then [] else lineBreak.toList
      let keptBreaks := if chomping = .keep then laterBreaks else []
      (breaks ++ line ++ lastBreak ++ keptBreaks, after)

/-- A scalar is indented at least one column deeper than the block around it. -/
def read (folded : Bool) (leastIndent : Nat) (source : Source) :
    Except Fault (List Char × Source) := do
  let (header, body) ← takeHeader source
  let (breaks, indent, text) :=
    match header.increment with
    | none =>
      let (breaks, width, text) := body.takeLeadingBreaks (body.rest.length + 1)
      (breaks, max leastIndent width, text)
    | some increment =>
      let indent := leastIndent + increment - 1
      let (breaks, text) := body.takeIndentedBreaks indent (body.rest.length + 1)
      (breaks, indent, text)
  if isIndented indent text then
    return takeLines folded header.chomping indent (text.rest.length + 1) breaks text
  else
    return (if header.chomping = .keep then breaks else [], text)

end BlockScalar

end Predicates.Yaml
