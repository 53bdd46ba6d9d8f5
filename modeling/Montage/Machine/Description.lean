import Montage.Machine.Files
import Montage.Number.Numeral
import Montage.Text.Json.Reader

/-!
# Files described in JSON

A template file is a JSON document.  What a media reader would find in a source stands
in a document of its own, beside the source:

    { "size": [1920, 1080], "fps": 30.0, "duration": 12.5, "audio": true }

Members of other names mean nothing there.
-/

namespace Montage

namespace Value

mutual

/-- A document as a value, if all its numbers are numerals. -/
def ofJson? : Json → Option (Value Number)
  | .null => some .null
  | .bool b => some (.bool b)
  | .numeral digits => (Number.ofNumeral? digits.toList).map .number
  | .string s => some (.text s)
  | .array items => (itemsOfJson? items).map .list
  | .object members => (membersOfJson? members).map Value.ofEntries

/-- The items of an array as values. -/
def itemsOfJson? : List Json → Option (List (Value Number))
  | [] => some []
  | item :: rest => do return (← ofJson? item) :: (← itemsOfJson? rest)

/-- The members of an object as entries. -/
def membersOfJson? : List (String × Json) → Option (List (Value Number × Value Number))
  | [] => some []
  | member :: rest => do return (← memberOfJson? member) :: (← membersOfJson? rest)

/-- A member of an object as an entry. -/
def memberOfJson? : String × Json → Option (Value Number × Value Number)
  | (name, item) => do return (.text name, ← ofJson? item)

end

/-- The value that a text spells. -/
def ofText? (content : String) : Option (Value Number) :=
  (Json.read? content).bind ofJson?

/-- The number that a value is, truth values left out. -/
def number? {α : Type} : Value α → Option α
  | number x => some x
  | _ => none

/-- The truth value that a value is. -/
def bool? {α : Type} : Value α → Option Bool
  | bool b => some b
  | _ => none

end Value

/-- What a media reader finds according to a description. -/
def MediaFile.ofValue {α : Type} (description : Value α) : MediaFile α :=
  { size :=
      match description.get "size" with
      | .list [.number width, .number height] => some (width, height)
      | _ => none
    fps := (description.get "fps").number?
    duration := (description.get "duration").number?
    audio := (description.get "audio").bool?
    failure := none }

end Montage
