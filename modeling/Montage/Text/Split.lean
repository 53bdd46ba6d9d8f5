/-!
# Splitting at a separator

A text is cut at every separator.  There is always one part more than there are
separators, and parts may be empty.
-/

namespace Montage.Text

/-- The parts of a text between separators. -/
def parts (separator : Char) : List Char → List (List Char)
  | [] => [[]]
  | c :: rest =>
      if c == separator then [] :: parts separator rest
      else
        match parts separator rest with
        | [] => [[c]]
        | first :: others => (c :: first) :: others

/-- The parts of a string between separators. -/
def fields (separator : Char) (text : String) : List String :=
  (parts separator text.toList).map String.ofList

end Montage.Text
