/-
This file divides the text of an expression into lexemes and reads their meaning.
-/

import Predicates.Expression.Token
import Predicates.Text.Integer

namespace Predicates

/-- Each class describes the shape of one group of tokens. -/
inductive TokenClass where
  | fixed (first : Char) (others : List Char) (form : TokenForm)
  | fraction
  | whole
  | quoted (mark : Char)
  | word

/-- A lexeme is a run of blanks or the text of one token. -/
inductive LexemeClass where
  | blank
  | token (tokenClass : TokenClass)

namespace LexemeClass

/-- The classes are tried in this order, so every spelling stands before its own beginnings. -/
def all : List LexemeClass :=
  [.blank,
    .token (.fixed '=' ['='] (.comparison .equal)),
    .token (.fixed '!' ['='] (.comparison .notEqual)),
    .token (.fixed '<' ['='] (.comparison .atMost)),
    .token (.fixed '>' ['='] (.comparison .atLeast)),
    .token (.fixed '&' ['&'] (.connective .and .symbol)),
    .token (.fixed '|' ['|'] (.connective .or .symbol)),
    .token (.fixed '<' [] (.comparison .below)),
    .token (.fixed '>' [] (.comparison .above)),
    .token (.fixed '!' [] (.not .symbol)),
    .token (.fixed '-' [] .minus),
    .token (.fixed '(' [] .opening),
    .token (.fixed ')' [] .closing),
    .token .fraction,
    .token .whole,
    .token (.quoted Quoted.doubleMark),
    .token (.quoted Quoted.singleMark),
    .token .word]

end LexemeClass

namespace Lexeme

/-- A lexeme is returned together with the text behind it. -/
abbrev Split := List Char × List Char

/-- A run takes as many characters of one kind as there are, and at least one. -/
def run? (belongs : Char → Bool) (text : List Char) : Option Split :=
  match text.takeWhile belongs with
  | [] => none
  | taken => some (taken, text.dropWhile belongs)

def fixed? : List Char → List Char → Option Split
  | [], text => some ([], text)
  | _ :: _, [] => none
  | expected :: spelling, character :: text =>
    if expected = character then
      (fixed? spelling text).map fun split => (character :: split.1, split.2)
    else none

/-- A fraction has digits on both sides of the point. -/
def fraction? (text : List Char) : Option Split :=
  match run? isDecimalDigit text with
  | some (whole, point :: afterPoint) =>
    if point = '.' then
      (run? isDecimalDigit afterPoint).map fun split => (whole ++ point :: split.1, split.2)
    else none
  | _ => none

/-- The body of a quoted text ends at the first mark that is not part of an escape. An escape is
any character but a line feed behind the escape mark. -/
def quotedBody? (mark : Char) : List Char → Option Split
  | [] => none
  | character :: text =>
    if character = mark then some ([], text)
    else if character = Quoted.escapeMark then
      match text with
      | [] => none
      | escaped :: rest =>
        if escaped = '\n' then none
        else (quotedBody? mark rest).map fun split =>
          (character :: escaped :: split.1, split.2)
    else (quotedBody? mark text).map fun split => (character :: split.1, split.2)

def quoted? (mark : Char) : List Char → Option Split
  | [] => none
  | character :: text =>
    if character = mark then
      (quotedBody? mark text).map fun split => (mark :: split.1 ++ [mark], split.2)
    else none

def startsWord (character : Char) : Bool :=
  character.isAlpha || character = '_'

def continuesWord (character : Char) : Bool :=
  character.isAlphanum || character = '_'

def word? : List Char → Option Split
  | [] => none
  | character :: text =>
    if startsWord character then
      some (character :: text.takeWhile continuesWord, text.dropWhile continuesWord)
    else none

/-- The escapes for line breaks and tabs stand for those characters, and every other escaped
character stands for itself. -/
def escapedCharacter (character : Char) : Char :=
  if character = 'n' then '\n'
  else if character = 't' then '\t'
  else if character = 'r' then '\r'
  else character

def unescape : List Char → List Char
  | [] => []
  | [character] => [character]
  | character :: escaped :: rest =>
    if character = Quoted.escapeMark then escapedCharacter escaped :: unescape rest
    else character :: unescape (escaped :: rest)

/-- The digits behind the point lower the exponent of the number by one each. -/
def fractionValue (lexeme : List Char) : Binary64 :=
  let whole := lexeme.takeWhile isDecimalDigit
  let places := (lexeme.dropWhile isDecimalDigit).drop 1
  Binary64.ofDecimalNotation false (digitsValue (whole ++ places)) (-(places.length : Int))

def keywords : List (List Char × TokenForm) :=
  [(['t', 'r', 'u', 'e'], .literal (.bool true)),
    (['f', 'a', 'l', 's', 'e'], .literal (.bool false)),
    (['n', 'u', 'l', 'l'], .literal .null),
    (['a', 'n', 'd'], .connective .and .word),
    (['o', 'r'], .connective .or .word),
    (['n', 'o', 't'], .not .word)]

/-- Words are compared with the keywords without regard to case. -/
def wordForm (lexeme : List Char) : TokenForm :=
  (keywords.lookup (lexeme.map Char.toLower)).getD (.identifier (String.ofList lexeme))

end Lexeme

namespace TokenClass

def take? : TokenClass → List Char → Option Lexeme.Split
  | .fixed first others _, text => Lexeme.fixed? (first :: others) text
  | .fraction, text => Lexeme.fraction? text
  | .whole, text => Lexeme.run? isDecimalDigit text
  | .quoted mark, text => Lexeme.quoted? mark text
  | .word, text => Lexeme.word? text

/-- The form of a lexeme exists unless it is an integer with too many digits. -/
def form? : TokenClass → List Char → Option TokenForm
  | .fixed _ _ form, _ => some form
  | .fraction, lexeme => some (.literal (.binary (Lexeme.fractionValue lexeme)))
  | .whole, lexeme =>
    if digitLimit < lexeme.length then none
    else some (.literal (.integer (digitsValue lexeme)))
  | .quoted _, lexeme =>
    some (.literal (.string (String.ofList (Lexeme.unescape (lexeme.drop 1).dropLast))))
  | .word, lexeme => some (Lexeme.wordForm lexeme)

end TokenClass

namespace LexemeClass

def take? : LexemeClass → List Char → Option Lexeme.Split
  | .blank, text => Lexeme.run? isBlank text
  | .token tokenClass, text => tokenClass.take? text

/-- The first class that takes anything decides the lexeme. -/
def first? (text : List Char) : Option (LexemeClass × Lexeme.Split) :=
  all.findSome? fun lexemeClass => (lexemeClass.take? text).map fun split => (lexemeClass, split)

end LexemeClass

end Predicates
