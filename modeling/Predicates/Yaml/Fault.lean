/-
This file names the reasons why a YAML text has no data.
-/

import Predicates.Text.Integer
import Predicates.Text.Quoted
import Predicates.Yaml.Instant

namespace Predicates.Yaml

/-- A text is refused for the first of these reasons that is met. -/
inductive Refusal where
  | unprintableCharacter
  | unexpectedCharacter
  | unfinishedKey
  | entryNotAllowed
  | keyNotAllowed
  | valueNotAllowed
  | unopenedBracket
  | badDirective
  | badAnchor
  | badTag
  | badBlockHeader
  | badEscape
  | unfinishedQuote
  | unexpectedToken
  | severalDocuments
  | unknownAlias
  | repeatedAnchor
  | unknownTagHandle
  | unknownTag
  | wrongKind
  | badMerge
  | unusableKey
  | badPair
  | badOctets
  deriving DecidableEq

/-- A text can be refused, or a part of it has the right form and yet denotes no value. -/
inductive Fault where
  | refusal (refusal : Refusal)
  | noCharacter (code : Nat)
  | tooManyDigits (count : Nat)
  | calendar (fault : CalendarFault)
  | notInteger (base : Nat) (digits : String)
  | notFloat (text : String)
  | notTruthValue (text : String)
  | notInstant
  | emptyNumber
  | placeTooHigh
  deriving DecidableEq

def refuse {A : Type} (refusal : Refusal) : Except Fault A :=
  .error (.refusal refusal)

namespace Fault

/-- Only the start of a long text is shown. -/
def shown (text : String) : String :=
  String.ofList ((quoted text).toList.take 200)

/-- Codes past this one do not fit into a signed word of 32 bits. -/
def largestCode : Nat := 0x7FFFFFFF

/-- Refused texts and codes of more than a word have no message. -/
def message? : Fault → Option String
  | .refusal _ => none
  | .noCharacter code =>
    if largestCode < code then none else some "chr() arg not in range(0x110000)"
  | .tooManyDigits count => some (tooManyDigitsMessage count)
  | .calendar fault => some fault.message
  | .notInteger base digits => some s!"invalid literal for int() with base {base}: {shown digits}"
  | .notFloat text => some s!"could not convert string to float: {quoted text}"
  | .notTruthValue text => some text
  | .notInstant => none
  | .emptyNumber => some "string index out of range"
  | .placeTooHigh => some "int too large to convert to float"

end Fault

end Predicates.Yaml
