import Montage.Text.Quoted

/-!
# JSON text

Plans are written as JSON with an indent of two spaces and the members of an
object in the order in which they are listed.  Strings are ASCII: any other
character is written as one `\u` escape, or as two that form a surrogate pair.
Numbers come as text, because whole and real numbers are written differently.
-/

namespace Montage

/-- A JSON document. -/
inductive Json where
  | null
  | bool (b : Bool)
  | numeral (text : String)
  | string (text : String)
  | array (items : List Json)
  | object (members : List (String × Json))

namespace Json

/-- One UTF-16 unit as an escape. -/
def unitEscape (unit : Nat) : List Char :=
  '\\' :: 'u' :: Text.hexadecimal 4 unit

/-- One character inside a string. -/
def escaped (c : Char) : List Char :=
  if c == Text.doubleQuote || c == '\\' then ['\\', c]
  else if c == '\n' then ['\\', 'n']
  else if c == '\r' then ['\\', 'r']
  else if c == '\t' then ['\\', 't']
  else if c == '\x08' then ['\\', 'b']
  else if c == '\x0c' then ['\\', 'f']
  else if 0x20 ≤ c.toNat && c.toNat < 0x7F then [c]
  else if c.toNat < 0x10000 then unitEscape c.toNat
  else
    let offset := c.toNat - 0x10000
    unitEscape (0xD800 + offset / 0x400) ++ unitEscape (0xDC00 + offset % 0x400)

/-- A text as a JSON string. -/
def stringText (text : String) : String :=
  String.ofList (Text.doubleQuote :: text.toList.flatMap escaped ++ [Text.doubleQuote])

/-- A line break and the indent of the given depth. -/
def newline (depth : Nat) : String :=
  "\n" ++ String.ofList (List.replicate (2 * depth) ' ')

mutual

/-- The text of a document inside `depth` brackets. -/
def renderAt (depth : Nat) : Json → String
  | null => "null"
  | bool b => if b then "true" else "false"
  | numeral text => text
  | string text => stringText text
  | array [] => "[]"
  | array (first :: rest) =>
      "[" ++ newline (depth + 1) ++ renderAt (depth + 1) first ++
        renderItems (depth + 1) rest ++ newline depth ++ "]"
  | object [] => "\x7b\x7d"
  | object (first :: rest) =>
      "\x7b" ++ newline (depth + 1) ++ renderMember (depth + 1) first ++
        renderMembers (depth + 1) rest ++ newline depth ++ "\x7d"

/-- The items after the first of an array. -/
def renderItems (depth : Nat) : List Json → String
  | [] => ""
  | item :: rest => "," ++ newline depth ++ renderAt depth item ++ renderItems depth rest

/-- The members after the first of an object. -/
def renderMembers (depth : Nat) : List (String × Json) → String
  | [] => ""
  | member :: rest =>
      "," ++ newline depth ++ renderMember depth member ++ renderMembers depth rest

/-- One member of an object. -/
def renderMember (depth : Nat) : String × Json → String
  | (name, value) => stringText name ++ ": " ++ renderAt depth value

end

/-- The text of a document. -/
def render (document : Json) : String :=
  renderAt 0 document

end Json

end Montage
