import Montage.Number.Basic
import Montage.Text.WholeNumber

/-!
# Numerals

A numeral is an optional minus sign and ASCII digits, then optionally a point with
more digits and an exponent.  Without the latter two it is a whole number, else the
double nearest to the decimal that it spells.
-/

namespace Montage.Number

/-- The digits of a fraction and what follows them.  There is none without a point, and
a point needs digits. -/
def fraction? : List Char → Option (List Char × List Char)
  | '.' :: rest =>
      match rest.span Char.isDigit with
      | ([], _) => none
      | (digits, after) => some (digits, after)
  | rest => some ([], rest)

/-- The exponent that makes up the rest of a numeral. -/
def exponent? : List Char → Option Int
  | [] => some 0
  | c :: digits => if c == 'e' || c == 'E' then Text.wholeNumber? 10 digits else none

/-- The double nearest to `mantissa * 10 ^ exponent`. -/
def scaled (negative : Bool) (mantissa : Nat) (exponent : Int) : Float :=
  Binary64.nearest negative (mantissa * Nat.pow 10 exponent.toNat) (Nat.pow 10 (-exponent).toNat)

/-- The number that unsigned characters spell. -/
def ofUnsigned? (negative : Bool) (text : List Char) : Option Number := do
  let (digits, rest) := text.span Char.isDigit
  if digits.isEmpty then none
  else if rest.isEmpty then
    let n : Int := Text.digitsValue digits
    return .whole (if negative then -n else n)
  else
    let (fraction, rest) ← fraction? rest
    let exponent ← exponent? rest
    return .real (scaled negative (Text.digitsValue (digits ++ fraction))
      (exponent - fraction.length))

/-- The number that a numeral spells. -/
def ofNumeral? : List Char → Option Number
  | '-' :: text => ofUnsigned? true text
  | text => ofUnsigned? false text

end Montage.Number
