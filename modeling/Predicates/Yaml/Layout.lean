/-
This file divides a YAML text into tokens and finds its blocks from the indentation.
-/

import Predicates.Yaml.Token

namespace Predicates.Yaml

/-- A token can turn out to be a key when a colon follows it on the same line. A required key
stands where the entries of its block start. -/
structure KeyCandidate where
  depth : Nat
  tokenCount : Nat
  required : Bool
  place : Place

/-- The tokens are kept with the last one first. The blocks are the columns of the open block
collections, with the innermost first, and the depth counts the open flow collections. -/
structure Layout where
  source : Source
  tokens : List Token
  tokenCount : Nat
  depth : Nat
  blocks : List Nat
  keyAllowed : Bool
  candidates : List KeyCandidate

namespace Layout

def start (source : Source) : Layout :=
  ⟨source, [], 0, 0, [], true, []⟩

def push (layout : Layout) (token : Token) : Layout :=
  { layout with tokens := token :: layout.tokens, tokenCount := layout.tokenCount + 1 }

/-- The token goes in front of those that came after the given number of tokens. -/
def insert (layout : Layout) (count : Nat) (token : Token) : Layout :=
  let (after, before) := layout.tokens.splitAt (layout.tokenCount - count)
  { layout with tokens := after ++ token :: before, tokenCount := layout.tokenCount + 1 }

def moveTo (layout : Layout) (source : Source) : Layout :=
  { layout with source := source }

def allowKey (layout : Layout) (allowed : Bool) : Layout :=
  { layout with keyAllowed := allowed }

def inFlow (layout : Layout) : Bool :=
  0 < layout.depth

/-- Nested text is indented deeper than the innermost block. -/
def innerIndent (layout : Layout) : Nat :=
  match layout.blocks with
  | [] => 0
  | column :: _ => column + 1

/-- Comments and empty lines are passed over, and the flag tells whether a line has ended. -/
def skipBlankLines : Nat → Source → Bool × Source
  | 0, source => (false, source)
  | count + 1, source =>
    let spaced := source.skipSpaces
    let commented := if spaced.peek? 0 = some '#' then spaced.skipLine else spaced
    match commented.takeBreak? with
    | none => (false, commented)
    | some (_, next) => (true, (skipBlankLines count next).2)

/-- A key may start on every new line outside flow collections. -/
def skipToToken (layout : Layout) : Layout :=
  let source := layout.source
  let marked :=
    if source.place.index = 0 && source.peek? 0 = some byteOrderMark then source.skip 1
    else source
  let (newLine, next) := skipBlankLines (marked.rest.length + 1) marked
  (layout.moveTo next).allowKey (layout.keyAllowed || (newLine && !layout.inFlow))

/-- A key must be short and stand on one line. -/
def isStale (layout : Layout) (candidate : KeyCandidate) : Bool :=
  candidate.place.line ≠ layout.source.place.line ||
    1024 < layout.source.place.index - candidate.place.index

def dropStale (layout : Layout) : Except Fault Layout :=
  if layout.candidates.any fun candidate => layout.isStale candidate && candidate.required then
    refuse .unfinishedKey
  else
    .ok { layout with
      candidates := layout.candidates.filter fun candidate => !layout.isStale candidate }

def candidate? (layout : Layout) : Option KeyCandidate :=
  layout.candidates.find? fun candidate => candidate.depth = layout.depth

def dropCandidate (layout : Layout) : Except Fault Layout :=
  if layout.candidate?.any KeyCandidate.required then refuse .unfinishedKey
  else
    .ok { layout with
      candidates := layout.candidates.filter fun candidate => candidate.depth ≠ layout.depth }

/-- The token that follows becomes a candidate when a key may stand there. -/
def saveCandidate (layout : Layout) : Except Fault Layout :=
  if layout.keyAllowed then do
    let dropped ← layout.dropCandidate
    let required := !layout.inFlow && layout.blocks.head? = some layout.source.column
    return { dropped with
      candidates :=
        ⟨layout.depth, layout.tokenCount, required, layout.source.place⟩ :: dropped.candidates }
  else .ok layout

/-- The blocks that the predicate leaves are closed from the inside. -/
def closeBlocks (layout : Layout) (closes : Nat → Bool) : Layout :=
  let closed := layout.blocks.takeWhile closes
  let ended := closed.foldl (fun current _ => current.push .blockEnd) layout
  { ended with blocks := layout.blocks.dropWhile closes }

def closeDeeperBlocks (layout : Layout) : Layout :=
  if layout.inFlow then layout
  else layout.closeBlocks fun column => layout.source.column < column

def closeAllBlocks (layout : Layout) : Layout :=
  if layout.inFlow then layout else layout.closeBlocks fun _ => true

def opensBlock (layout : Layout) (column : Nat) : Bool :=
  !layout.inFlow && layout.blocks.head?.all fun innermost => innermost < column

/-- A block starts when its first entry is indented deeper than the block around it. -/
def openBlock (layout : Layout) (token : Token) : Layout :=
  if layout.opensBlock layout.source.column then
    { layout.push token with blocks := layout.source.column :: layout.blocks }
  else layout

def takeToken (layout : Layout) (token : Token) (width : Nat) : Layout :=
  (layout.push token).moveTo (layout.source.skip width)

/-- Directives and document markers close all blocks. -/
def closeDocument (layout : Layout) : Except Fault Layout := do
  let dropped ← layout.closeAllBlocks.dropCandidate
  return dropped.allowKey false

def takeDirective (layout : Layout) : Except Fault Layout := do
  let closed ← layout.closeDocument
  let (token, after) ← Token.readDirective closed.source
  return (closed.push token).moveTo after

def takeMarker (layout : Layout) (token : Token) : Except Fault Layout := do
  let closed ← layout.closeDocument
  return closed.takeToken token 3

def openFlow (layout : Layout) (token : Token) : Except Fault Layout := do
  let saved ← layout.saveCandidate
  return { (saved.takeToken token 1).allowKey true with depth := layout.depth + 1 }

/-- A closing bracket must have been opened before. -/
def closeFlow (layout : Layout) (token : Token) : Except Fault Layout := do
  let dropped ← layout.dropCandidate
  match layout.depth with
  | 0 => refuse .unopenedBracket
  | depth + 1 => return { (dropped.takeToken token 1).allowKey false with depth := depth }

def takeFlowEntry (layout : Layout) : Except Fault Layout := do
  let dropped ← layout.dropCandidate
  return (dropped.takeToken .flowEntry 1).allowKey true

def takeBlockEntry (layout : Layout) : Except Fault Layout :=
  if !layout.inFlow && !layout.keyAllowed then refuse .entryNotAllowed
  else do
    let dropped ← (layout.openBlock .blockSequenceStart).dropCandidate
    return (dropped.takeToken .blockEntry 1).allowKey true

def takeKey (layout : Layout) : Except Fault Layout :=
  if !layout.inFlow && !layout.keyAllowed then refuse .keyNotAllowed
  else do
    let dropped ← (layout.openBlock .blockMappingStart).dropCandidate
    return (dropped.takeToken .key 1).allowKey (!layout.inFlow)

/-- The candidate before a colon is marked as a key after the fact, and it may open a block. -/
def markKey (layout : Layout) (candidate : KeyCandidate) : Layout :=
  let opens := layout.opensBlock candidate.place.column
  let keyed := layout.insert candidate.tokenCount .key
  let marked := if opens then keyed.insert candidate.tokenCount .blockMappingStart else keyed
  { marked with
    blocks := if opens then candidate.place.column :: layout.blocks else layout.blocks
    candidates := layout.candidates.filter fun other => other.depth ≠ layout.depth }

def takeValue (layout : Layout) : Except Fault Layout :=
  match layout.candidate? with
  | some candidate => .ok (((layout.markKey candidate).takeToken .value 1).allowKey false)
  | none =>
    if !layout.inFlow && !layout.keyAllowed then refuse .valueNotAllowed
    else do
      let dropped ← (layout.openBlock .blockMappingStart).dropCandidate
      return (dropped.takeToken .value 1).allowKey (!layout.inFlow)

def takeAlias (layout : Layout) : Except Fault Layout := do
  let saved ← layout.saveCandidate
  let (name, after) ← Token.readName (saved.source.skip 1)
  return ((saved.push (.alias name)).moveTo after).allowKey false

def takeAnchor (layout : Layout) : Except Fault Layout := do
  let saved ← layout.saveCandidate
  let (name, after) ← Token.readName (saved.source.skip 1)
  return ((saved.push (.anchor name)).moveTo after).allowKey false

def takeTag (layout : Layout) : Except Fault Layout := do
  let saved ← layout.saveCandidate
  let (token, after) ← Token.readTag saved.source
  return ((saved.push token).moveTo after).allowKey false

def takeBlockScalar (layout : Layout) (folded : Bool) : Except Fault Layout := do
  let dropped ← layout.dropCandidate
  let (text, after) ← BlockScalar.read folded (max 1 layout.innerIndent) (layout.source.skip 1)
  return ((dropped.push (.scalar false (String.ofList text))).moveTo after).allowKey true

def takeQuotedScalar (layout : Layout) (mark : Char) : Except Fault Layout := do
  let saved ← layout.saveCandidate
  let body := layout.source.skip 1
  let (text, after) ← QuotedScalar.read mark (body.rest.length + 1) body
  return ((saved.push (.scalar false (String.ofList text))).moveTo after).allowKey false

/-- A plain scalar that passes the end of a line allows a key behind it. -/
def takePlainScalar (layout : Layout) : Except Fault Layout := do
  let saved ← layout.saveCandidate
  let (text, passedBreak, after) :=
    Plain.read layout.inFlow layout.innerIndent (layout.source.rest.length + 1) layout.source
  return ((saved.push (.scalar true (String.ofList text))).moveTo after).allowKey passedBreak

/-- These characters start tokens of their own. -/
def reservedCharacters : List Char :=
  ['-', '?', ':', ',', '[', ']', '\x7b', '\x7d', '#', '&', '*', '!', '|', '>', '\x27', '\x22',
    '%', '@', '\x60']

def startsPlain (layout : Layout) (character : Char) : Bool :=
  (!endsWord (some character) && !reservedCharacters.contains character) ||
    (!endsWord (layout.source.peek? 1) &&
      (character = '-' || (!layout.inFlow && (character = '?' || character = ':'))))

/-- A question mark or colon is an indicator in flow style and at the end of a word. -/
def isIndicator (layout : Layout) : Bool :=
  layout.inFlow || endsWord (layout.source.peek? 1)

/-- The first character decides which token is taken. -/
def takeNext (layout : Layout) (character : Char) : Except Fault Layout :=
  let atLineStart := layout.source.column = 0
  if character = '%' && atLineStart then layout.takeDirective
  else if atLineStart && layout.source.startsMarker '-' then layout.takeMarker .documentStart
  else if atLineStart && layout.source.startsMarker '.' then layout.takeMarker .documentEnd
  else if character = '[' then layout.openFlow .flowSequenceStart
  else if character = '\x7b' then layout.openFlow .flowMappingStart
  else if character = ']' then layout.closeFlow .flowSequenceEnd
  else if character = '\x7d' then layout.closeFlow .flowMappingEnd
  else if character = ',' then layout.takeFlowEntry
  else if character = '-' && endsWord (layout.source.peek? 1) then layout.takeBlockEntry
  else if character = '?' && layout.isIndicator then layout.takeKey
  else if character = ':' && layout.isIndicator then layout.takeValue
  else if character = '*' then layout.takeAlias
  else if character = '&' then layout.takeAnchor
  else if character = '!' then layout.takeTag
  else if character = '|' && !layout.inFlow then layout.takeBlockScalar false
  else if character = '>' && !layout.inFlow then layout.takeBlockScalar true
  else if character = '\x27' || character = '\x22' then layout.takeQuotedScalar character
  else if layout.startsPlain character then layout.takePlainScalar
  else refuse .unexpectedCharacter

/-- The flag tells whether the text has ended. -/
def advance (layout : Layout) : Except Fault (Bool × Layout) := do
  let fresh ← layout.skipToToken.dropStale
  let ready := fresh.closeDeeperBlocks
  match ready.source.rest with
  | [] => return (true, ← ready.closeAllBlocks.dropCandidate)
  | character :: _ => return (false, ← ready.takeNext character)

/-- The tokens from the first candidate on are withheld, since its key is not marked yet. -/
def settledTokens (layout : Layout) : List Token :=
  let pending := layout.candidates.filter fun candidate => !layout.isStale candidate
  let count := pending.foldl (fun least candidate => min least candidate.tokenCount)
    layout.tokenCount
  layout.tokens.reverse.take count

/-- Tokens are taken until the text ends. Each takes at least one character, so the count of
characters bounds them. -/
def takeAll : Nat → Layout → List Token
  | 0, layout => layout.settledTokens ++ [.unreadable (.refusal .unexpectedCharacter)]
  | count + 1, layout =>
    match layout.advance with
    | .error fault => layout.settledTokens ++ [.unreadable fault]
    | .ok (true, last) => last.tokens.reverse
    | .ok (false, next) => takeAll count next

end Layout

/-- A text is checked in pieces when the reading comes to them, and the first piece is twice as
long as the others. -/
def pieceLength : Nat := 4096

/-- The pieces before the first one with a character that is not allowed can be read. -/
def readableLength? (characters : List Char) : Option Nat :=
  (characters.findIdx? fun character => !isAllowed character).map fun index =>
    if index < 2 * pieceLength then 0 else index / pieceLength * pieceLength

def tokensOfSource (source : Source) : List Token :=
  Layout.takeAll (source.rest.length + 1) (Layout.start source)

/-- The tokens of a text describe its structure completely. -/
def tokensOf (text : String) : List Token :=
  let source := Source.ofText text
  match readableLength? source.rest with
  | none => tokensOfSource source
  | some length =>
    tokensOfSource { source with rest := source.rest.take length } ++
      [.unreadable (.refusal .unprintableCharacter)]

end Predicates.Yaml
