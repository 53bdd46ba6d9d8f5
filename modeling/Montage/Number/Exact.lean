/-!
# Exact values

A double is a signed multiple of a power of two, an infinity, or not a number.
This file reads those three cases off the bits of a double, gives the exact
rational behind a finite one, and goes back: the double nearest to a quotient of
natural numbers.  Text, rounding and mixed comparisons are then decided on exact
rationals, so that none of them depends on a chain of floating point steps.
-/

namespace Montage

/-- A number as it stands: a rational, the zero that keeps a minus sign, an
infinity, or not a number. -/
inductive Exact where
  | notANumber
  | infinite (negative : Bool)
  | negativeZero
  | finite (value : Rat)

namespace Exact

/-- The sign that is written in front of the digits. -/
def isNegative : Exact → Bool
  | notANumber => false
  | infinite negative => negative
  | negativeZero => true
  | finite value => decide (value < 0)

/-- The rational meant, where there is one. -/
def value? : Exact → Option Rat
  | negativeZero => some 0
  | finite value => some value
  | notANumber | infinite _ => none

/-- Strict order; not a number is ordered with nothing. -/
def lt : Exact → Exact → Bool
  | notANumber, _ | _, notANumber => false
  | infinite left, infinite right => left && !right
  | infinite left, _ => left
  | _, infinite right => !right
  | left, right => decide (left.value?.getD 0 < right.value?.getD 0)

/-- Order with equality; the two zeros are equal. -/
def le : Exact → Exact → Bool
  | notANumber, _ | _, notANumber => false
  | left, right => !lt right left

end Exact

/-- The three kinds of double.  A finite one is
`± mantissa * 2 ^ exponent`. -/
inductive Binary64 where
  | notANumber
  | infinite (negative : Bool)
  | finite (negative : Bool) (mantissa : Nat) (exponent : Int)

namespace Binary64

/-- Reads sign, exponent field and fraction field off the bits. -/
def ofFloat (x : Float) : Binary64 :=
  let bits := x.toBits.toNat
  let negative := bits / Nat.pow 2 63 == 1
  let field : Nat := bits / Nat.pow 2 52 % Nat.pow 2 11
  let fraction : Nat := bits % Nat.pow 2 52
  if field == 2047 then
    if fraction == 0 then infinite negative else notANumber
  else if field == 0 then finite negative fraction (-1074)
  else finite negative (Nat.pow 2 52 + fraction) ((field : Int) - 1075)

/-- The exact value of a double. -/
def exact : Binary64 → Exact
  | notANumber => .notANumber
  | infinite negative => .infinite negative
  | finite negative mantissa exponent =>
      if mantissa == 0 then
        if negative then .negativeZero else .finite 0
      else
        let magnitude : Rat :=
          if exponent < 0 then mkRat mantissa (Nat.pow 2 exponent.natAbs)
          else mkRat (mantissa * Nat.pow 2 exponent.natAbs) 1
        .finite (if negative then -magnitude else magnitude)

/-- The quotient rounded to a whole number, a half to the even neighbour. -/
def roundHalfEven (numerator denominator : Nat) : Nat :=
  let below := numerator / denominator
  let twice := 2 * (numerator % denominator)
  if twice < denominator then below
  else if denominator < twice then below + 1
  else if below % 2 == 0 then below else below + 1

/-- The exponent at which the quotient of two positive numbers has 53 binary
digits, or the least exponent of a double if that is greater. -/
def exponentOf (numerator denominator : Nat) : Int :=
  let guess : Int := (numerator.log2 : Int) - denominator.log2 - 53
  let scaledUp := Nat.pow 2 (guess + 53).toNat * denominator
  let scaledDown := Nat.pow 2 (-(guess + 53)).toNat * numerator
  max (if scaledUp ≤ scaledDown then guess + 1 else guess) (-1074)

/-- The double nearest to `± numerator / denominator`, a half to the even
neighbour; infinite beyond the greatest double.  The mantissa is added to the
exponent field, so that a mantissa that rounds up to `2 ^ 53` carries into it. -/
def nearest (negative : Bool) (numerator denominator : Nat) : Float :=
  let magnitude : Nat :=
    if numerator == 0 then 0
    else
      let exponent := exponentOf numerator denominator
      let mantissa :=
        roundHalfEven (numerator * Nat.pow 2 (-exponent).toNat)
          (denominator * Nat.pow 2 exponent.toNat)
      min ((exponent + 1074).toNat * Nat.pow 2 52 + mantissa) (2047 * Nat.pow 2 52)
  Float.ofBits (UInt64.ofNat (if negative then Nat.pow 2 63 + magnitude else magnitude))

/-- The double nearest to a whole number. -/
def ofInt (n : Int) : Float :=
  nearest (decide (n < 0)) n.natAbs 1

end Binary64

end Montage
