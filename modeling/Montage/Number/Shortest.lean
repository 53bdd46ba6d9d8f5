import Montage.Number.Exact

/-!
# Shortest decimal text of a double

A double is written with the fewest digits that read back as the same double,
and among those with the digits nearest to its exact value.  `Shortest.digits`
finds them in exact arithmetic on the mantissa and the exponent: on each decimal
grid, from coarse to fine, it tests the two neighbours of the value against the
interval of reals that round to it.  `Shortest.layout` then decides where the
point or the exponent goes.
-/

namespace Montage.Shortest

/-- A decimal `units * 10 ^ exponent`. -/
structure Decimal where
  units : Nat
  exponent : Int
deriving DecidableEq

/-- The reals that round to a positive double, as `low / scale` and
`high / scale`, around its value `middle / scale`.  The ends belong to it exactly
when the mantissa is even. -/
structure Interval where
  low : Nat
  middle : Nat
  high : Nat
  scale : Nat
  closed : Bool

/-- The interval of a positive double.  The gap below a power of two is half the
gap above it, unless the exponent is already the least one. -/
def Interval.of (mantissa : Nat) (exponent : Int) : Interval :=
  let below := if mantissa == Nat.pow 2 52 && exponent != -1074 then 1 else 2
  let up := Nat.pow 2 exponent.toNat
  { low := (4 * mantissa - below) * up
    middle := 4 * mantissa * up
    high := (4 * mantissa + 2) * up
    scale := 4 * Nat.pow 2 (-exponent).toNat
    closed := mantissa % 2 == 0 }

/-- Whether `numerator / denominator` rounds to the double of the interval. -/
def Interval.contains (interval : Interval) (numerator denominator : Nat) : Bool :=
  let point := numerator * interval.scale
  if interval.closed then
    interval.low * denominator ≤ point && point ≤ interval.high * denominator
  else
    interval.low * denominator < point && point < interval.high * denominator

/-- The grid point at `10 ^ exponent` that is nearest to the value, a tie to the
even one, among its two neighbours that lie in the interval. -/
def Interval.onGrid? (interval : Interval) (exponent : Int) : Option Nat :=
  let up := Nat.pow 10 exponent.toNat
  let down := Nat.pow 10 (-exponent).toNat
  let step := interval.scale * up
  let lower := interval.middle * down / step
  let rest := interval.middle * down % step
  let upper := lower + 1
  match interval.contains (lower * up) down, interval.contains (upper * up) down with
  | true, true =>
      if 2 * rest < step then some lower
      else if step < 2 * rest then some upper
      else if lower % 2 == 0 then some lower else some upper
  | true, false => some lower
  | false, true => some upper
  | false, false => none

/-- Walks from the grid `10 ^ exponent` to finer ones and takes the first that
has a point in the interval. -/
def Interval.search (interval : Interval) : Nat → Int → Decimal
  | 0, exponent => ⟨interval.middle / interval.scale, exponent⟩
  | grids + 1, exponent =>
      match interval.onGrid? exponent with
      | some units => ⟨units, exponent⟩
      | none => interval.search grids (exponent - 1)

/-- The shortest decimal of a positive double.  The value has at most one digit
more or less than the difference of the digit counts of numerator and
denominator, and seventeen digits always suffice. -/
def digits (mantissa : Nat) (exponent : Int) : Decimal :=
  let interval := Interval.of mantissa exponent
  let start : Int :=
    (Nat.toDigits 10 interval.middle).length - (Nat.toDigits 10 interval.scale).length + 1
  interval.search 24 start

/-! ## Layout -/

/-- Values from `10 ^ -4` on and below `10 ^ 16` are written positionally. -/
def positional (leading : Int) : Bool :=
  -4 ≤ leading && leading < 16

/-- Digits with the point after position `point`, and at least one digit on each
side of it. -/
def withPoint (text : List Char) (point : Int) : List Char :=
  if point ≤ 0 then
    "0.".toList ++ List.replicate (-point).toNat '0' ++ text
  else
    let whole := text.take point.toNat
    let rest := text.drop point.toNat
    whole ++ List.replicate (point.toNat - whole.length) '0' ++
      '.' :: (if rest.isEmpty then ['0'] else rest)

/-- An exponent always has a sign and at least two digits. -/
def exponentText (exponent : Int) : List Char :=
  let magnitude := Nat.toDigits 10 exponent.natAbs
  'e' :: (if exponent < 0 then '-' else '+') ::
    (if magnitude.length < 2 then '0' :: magnitude else magnitude)

/-- The text of a positive decimal. -/
def layout (decimal : Decimal) : List Char :=
  let text := Nat.toDigits 10 decimal.units
  let leading := decimal.exponent + text.length - 1
  if positional leading then
    withPoint text (leading + 1)
  else
    (match text with
      | [] => []
      | [digit] => [digit]
      | digit :: rest => digit :: '.' :: rest) ++ exponentText leading

/-- The text of a double. -/
def text (x : Binary64) : String :=
  match x with
  | .notANumber => "nan"
  | .infinite negative => if negative then "-inf" else "inf"
  | .finite negative mantissa exponent =>
      let unsigned :=
        if mantissa == 0 then "0.0".toList else layout (digits mantissa exponent)
      String.ofList (if negative then '-' :: unsigned else unsigned)

end Montage.Shortest
