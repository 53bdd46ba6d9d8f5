import Montage.Text.Json
import Montage.Text.Split

/-!
# Reading JSON text

A document is read from the front of a text.  Every bracket, member and item takes at
least one character, so the count of characters bounds the depth of the descent, and
one step more than that count is never used up.  Numbers stay the text that they are;
whether that is a numeral is decided where a number is needed.
-/

namespace Montage.Json

/-- The white space between tokens. -/
def isSpace (c : Char) : Bool :=
  c == ' ' || c == '\t' || c == '\n' || c == '\r'

/-- A text without white space in front. -/
def skip (text : List Char) : List Char :=
  text.dropWhile isSpace

/-- The value of a hexadecimal digit. -/
def hexDigit? (c : Char) : Option Nat :=
  if '0' ≤ c && c ≤ '9' then some (c.toNat - '0'.toNat)
  else if 'a' ≤ c && c ≤ 'f' then some (c.toNat - 'a'.toNat + 10)
  else if 'A' ≤ c && c ≤ 'F' then some (c.toNat - 'A'.toNat + 10)
  else none

/-- The UTF-16 unit that four hexadecimal digits spell. -/
def unit? (a b c d : Char) : Option Nat := do
  return 4096 * (← hexDigit? a) + 256 * (← hexDigit? b) + 16 * (← hexDigit? c) + (← hexDigit? d)

/-- The character of a short escape. -/
def short? : Char → Option Char
  | '\x22' => some '\x22'
  | '\\' => some '\\'
  | '/' => some '/'
  | 'b' => some '\x08'
  | 'f' => some '\x0c'
  | 'n' => some '\n'
  | 'r' => some '\r'
  | 't' => some '\t'
  | _ => none

/-- The character that a leading and a trailing surrogate stand for. -/
def pair? (leading trailing : Nat) : Option Char :=
  if 0xD800 ≤ leading && leading < 0xDC00 && 0xDC00 ≤ trailing && trailing < 0xE000 then
    some (Char.ofNat (0x10000 + 0x400 * (leading - 0xD800) + (trailing - 0xDC00)))
  else none

/-- The characters up to the closing quote, and what follows it. -/
def characters : List Char → Option (List Char × List Char)
  | [] => none
  | '\\' :: 'u' :: a :: b :: c :: d :: '\\' :: 'u' :: e :: f :: g :: h :: rest => do
      let first ← unit? a b c d
      match pair? first (← unit? e f g h) with
      | some character => do
          let (text, after) ← characters rest
          return (character :: text, after)
      | none => do
          let (text, after) ← characters ('\\' :: 'u' :: e :: f :: g :: h :: rest)
          return (Char.ofNat first :: text, after)
  | '\\' :: 'u' :: a :: b :: c :: d :: rest => do
      let character ← unit? a b c d
      let (text, after) ← characters rest
      return (Char.ofNat character :: text, after)
  | '\\' :: c :: rest => do
      let character ← short? c
      let (text, after) ← characters rest
      return (character :: text, after)
  | c :: rest =>
      if c == Text.doubleQuote then some ([], rest)
      else if c == '\\' then none
      else do
        let (text, after) ← characters rest
        return (c :: text, after)

/-- The characters of numbers. -/
def isNumeric (c : Char) : Bool :=
  c.isDigit || c == '-' || c == '+' || c == '.' || c == 'e' || c == 'E'

/-- A word or a number in front, and what follows it. -/
def bare (text : List Char) : Option (Json × List Char) :=
  match text with
  | 'n' :: 'u' :: 'l' :: 'l' :: rest => some (null, rest)
  | 't' :: 'r' :: 'u' :: 'e' :: rest => some (bool true, rest)
  | 'f' :: 'a' :: 'l' :: 's' :: 'e' :: rest => some (bool false, rest)
  | text =>
      match text.span isNumeric with
      | ([], _) => none
      | (digits, rest) => some (numeral (String.ofList digits), rest)

/-- The name of a member with its colon. -/
def memberName (text : List Char) : Option (String × List Char) :=
  match skip text with
  | '\x22' :: rest => do
      let (name, rest) ← characters rest
      match skip rest with
      | ':' :: rest => return (String.ofList name, rest)
      | _ => none
  | _ => none

mutual

/-- A document nested at most `depth` deep, and what follows it. -/
def value : (depth : Nat) → List Char → Option (Json × List Char)
  | 0, _ => none
  | depth + 1, text =>
      match skip text with
      | '\x22' :: rest => do
          let (text, rest) ← characters rest
          return (string (String.ofList text), rest)
      | '[' :: rest =>
          match skip rest with
          | ']' :: rest => some (array [], rest)
          | rest => do
              let (found, rest) ← items depth rest
              return (array found, rest)
      | '\x7b' :: rest =>
          match skip rest with
          | '\x7d' :: rest => some (object [], rest)
          | rest => do
              let (found, rest) ← members depth rest
              return (object found, rest)
      | rest => bare rest

/-- The items of an array up to its bracket. -/
def items : (depth : Nat) → List Char → Option (List Json × List Char)
  | 0, _ => none
  | depth + 1, text => do
      let (first, rest) ← value depth text
      match skip rest with
      | ',' :: rest => do
          let (others, rest) ← items depth rest
          return (first :: others, rest)
      | ']' :: rest => return ([first], rest)
      | _ => none

/-- The members of an object up to its brace. -/
def members : (depth : Nat) → List Char → Option (List (String × Json) × List Char)
  | 0, _ => none
  | depth + 1, text => do
      let (name, rest) ← memberName text
      let (first, rest) ← value depth rest
      match skip rest with
      | ',' :: rest => do
          let (others, rest) ← members depth rest
          return ((name, first) :: others, rest)
      | '\x7d' :: rest => return ([(name, first)], rest)
      | _ => none

end

/-- The document that a whole text spells. -/
def read? (text : String) : Option Json := do
  let (document, rest) ← value (text.length + 1) text.toList
  if (skip rest).isEmpty then document else none

end Montage.Json
