import Montage.Number.Exact

/-!
# Fixed decimal places

A number is written with a given count of decimal places: its exact value is
rounded half to even to a multiple of the last place, and a minus sign in front
of it stays even when every digit rounds away.  `Fixed.compact` is the short form
for filter arguments: six places, without the zeros at the end and without the
point when nothing follows it, and never a lone minus zero.
-/

namespace Montage.Fixed

/-- The magnitude of a rational in units of `10 ^ -places`, rounded half to
even. -/
def units (places : Nat) (value : Rat) : Nat :=
  Binary64.roundHalfEven (value.num.natAbs * Nat.pow 10 places) value.den

/-- The digits of `units` with a point in front of the last `places`. -/
def withPlaces (places units : Nat) : List Char :=
  if places == 0 then Nat.toDigits 10 units
  else
    let fraction := Nat.toDigits 10 (units % Nat.pow 10 places)
    Nat.toDigits 10 (units / Nat.pow 10 places) ++
      '.' :: (List.replicate (places - fraction.length) '0' ++ fraction)

/-- The characters of a number written with `places` decimal places. -/
def characters (places : Nat) (x : Exact) : List Char :=
  let unsigned :=
    match x with
    | .notANumber => "nan".toList
    | .infinite _ => "inf".toList
    | .negativeZero => withPlaces places 0
    | .finite value => withPlaces places (units places value)
  if x.isNegative then '-' :: unsigned else unsigned

/-- A number written with `places` decimal places. -/
def text (places : Nat) (x : Exact) : String :=
  String.ofList (characters places x)

/-- Drops every `c` from the end. -/
def dropTrailing (c : Char) (characters : List Char) : List Char :=
  (characters.reverse.dropWhile (· == c)).reverse

/-- Six places without trailing zeros, trailing point or lone minus zero. -/
def compact (x : Exact) : String :=
  let short := dropTrailing '.' (dropTrailing '0' (characters 6 x))
  if short == [] || short == ['-', '0'] then "0" else String.ofList short

end Montage.Fixed
