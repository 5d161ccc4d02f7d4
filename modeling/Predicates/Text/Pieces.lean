/-
This file cuts texts into pieces.
-/

namespace Predicates

/-- The text is cut at every separator, so there is always a first piece. -/
def cutAt (separator : Char) : List Char → List (List Char)
  | [] => [[]]
  | character :: rest =>
    if character = separator then [] :: cutAt separator rest
    else
      match cutAt separator rest with
      | [] => [[character]]
      | first :: others => (character :: first) :: others

end Predicates
