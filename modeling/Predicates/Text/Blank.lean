/-
This file holds the blank characters, which separate the tokens of an expression.
-/

import Predicates.Text.CodeRange

namespace Predicates

/-- The blanks are the separators of Unicode with a space or line-break class, and the
control characters that act as separators. -/
def blankRanges : List CodeRange :=
  [⟨0x09, 0x0D⟩, ⟨0x1C, 0x20⟩, ⟨0x85, 0x85⟩, ⟨0xA0, 0xA0⟩, ⟨0x1680, 0x1680⟩, ⟨0x2000, 0x200A⟩,
    ⟨0x2028, 0x2029⟩, ⟨0x202F, 0x202F⟩, ⟨0x205F, 0x205F⟩, ⟨0x3000, 0x3000⟩]

def isBlank (character : Char) : Bool :=
  CodeRange.holds blankRanges character

/-- This function removes the blanks at both ends. -/
def stripBlanks (characters : List Char) : List Char :=
  ((characters.dropWhile isBlank).reverse.dropWhile isBlank).reverse

end Predicates
