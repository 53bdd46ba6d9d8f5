import Montage.Fault.Basic
import Montage.Text.Quoted
import Montage.Text.WholeNumber

/-!
# Colours

A colour is one of a few names or three pairs of hexadecimal digits behind number
signs, which may be left out in front of exactly six hexadecimal digits.  The
digits of a pair are read as a whole number, so a pair may hold a sign or white
space in place of a digit.
-/

namespace Montage

/-- A colour by its red, green and blue channels. -/
structure Color where
  red : Int
  green : Int
  blue : Int
deriving DecidableEq, Repr

namespace Color

/-- The colours that have names. -/
def named : List (String × Color) :=
  [("black", ⟨0, 0, 0⟩), ("white", ⟨255, 255, 255⟩), ("red", ⟨255, 0, 0⟩),
    ("green", ⟨0, 128, 0⟩), ("blue", ⟨0, 0, 255⟩), ("yellow", ⟨255, 255, 0⟩),
    ("gray", ⟨128, 128, 128⟩)]

/-- The channel that a pair of digits spells. -/
def channel (pair : List Char) : Except NumberFault Int :=
  match Text.wholeNumber? 16 pair with
  | some n => .ok n
  | none => .error .unreadable

/-- Reads three pairs of digits after the number signs; what follows them is not
read. -/
def ofHex (text : String) : Except NumberFault Color := do
  let digits := text.toList.dropWhile (· == '#')
  let red ← channel (digits.take 2)
  let green ← channel ((digits.drop 2).take 2)
  let blue ← channel ((digits.drop 4).take 2)
  return ⟨red, green, blue⟩

/-- Whether the character is a hexadecimal digit of ASCII. -/
def isHexDigit (c : Char) : Bool :=
  c.isDigit || ('a' ≤ c && c ≤ 'f') || ('A' ≤ c && c ≤ 'F')

/-- Whether the text is meant as hexadecimal digits. -/
def looksHex (text : String) : Bool :=
  text.toList.head? == some '#' || (text.length == 6 && text.toList.all isHexDigit)

variable {α : Type}

/-- The colour that a text names or spells. -/
def ofText (text : String) : Result α Color :=
  match named.lookup text with
  | some color => .ok color
  | none => if looksHex text then ofHex text else .error (.input (.unknownColor text))

/-- The colour that a value names; only texts do. -/
def ofValue : Value α → Result α Color
  | .text s => ofText s
  | .list _ | .map _ => .error (.kind .unsupported)
  | _ => .error (.kind .notText)

/-- A channel in two hexadecimal digits; a minus sign counts as a digit. -/
def channelText (n : Int) : String :=
  if n < 0 then "-" ++ String.ofList (Text.hexadecimal 1 n.natAbs)
  else String.ofList (Text.hexadecimal 2 n.natAbs)

/-- The colour as a filter argument. -/
def filterText (color : Color) : String :=
  "0x" ++ channelText color.red ++ channelText color.green ++ channelText color.blue

end Color

end Montage
