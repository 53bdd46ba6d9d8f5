import Montage.Text.Blank
import Montage.Text.Digit

/-!
# Whole numbers in texts

A text spells a whole number if it is, between white space, an optional sign and
digits of the base, with single underscores allowed between digits.  Decimal
digits may come from any script; the digits beyond nine are ASCII letters.  The
information separators, which are white space elsewhere, do not stand around a number.
-/

namespace Montage.Text

/-- The value of a digit of a base up to sixteen. -/
def digitIn? (base : Nat) (c : Char) : Option Nat :=
  let value? : Option Nat :=
    match digit? c with
    | some value => some value
    | none =>
        if 'a' ≤ c && c ≤ 'f' then some (c.toNat - 'a'.toNat + 10)
        else if 'A' ≤ c && c ≤ 'F' then some (c.toNat - 'A'.toNat + 10)
        else none
  value?.filter (· < base)

/-- Reads digits up to the end, of which the text so far has the value `value`.
An underscore must stand between two digits. -/
def digitsFrom? (base : Nat) (value : Nat) : List Char → Option Nat
  | [] => some value
  | '_' :: c :: rest => do digitsFrom? base (base * value + (← digitIn? base c)) rest
  | c :: rest => do digitsFrom? base (base * value + (← digitIn? base c)) rest

/-- The number that unsigned digits spell. -/
def unsigned? (base : Nat) : List Char → Option Nat
  | [] => none
  | c :: rest => do digitsFrom? base (← digitIn? base c) rest

/-- Whether the character is one of the four information separators. -/
def isSeparator (c : Char) : Bool :=
  0x1C ≤ c.toNat && c.toNat ≤ 0x1F

/-- Whether the character may stand around a number. -/
def isMargin (c : Char) : Bool :=
  isBlank c && !isSeparator c

/-- The whole number that a text spells. -/
def wholeNumber? (base : Nat) (text : List Char) : Option Int :=
  match trimOf isMargin text with
  | '-' :: digits => (unsigned? base digits).map fun n => -(n : Int)
  | '+' :: digits => (unsigned? base digits).map fun n => (n : Int)
  | digits => (unsigned? base digits).map fun n => (n : Int)

end Montage.Text
