import Montage.Number.Exact
import Montage.Number.Fixed

/-!
# Scalars

Times, lengths, factors and offsets are computed over any type of numbers with
the operations of this file.  A program runs on numbers that are whole or
binary; statements about exact arithmetic take rationals for the same functions.

Some things are not total on every such type: a number that is not finite has no
floor, a whole number may be too large for the real numbers at hand, and nothing
divides by zero.  They are causes in `NumberFault`.

Addition and its kin are operations all the same.  Where a whole number is too large
to meet a real one, the result is a number that stands for this fault: every
operation passes it on, and `Scalar.checked` reports it.  So a formula is written as
a formula, and its result is checked before it is compared, shown or kept.
-/

namespace Montage

/-- Why a computation on numbers has no result. -/
inductive NumberFault where
  /-- A whole number was asked of something that is not a number. -/
  | notANumber
  /-- A whole number was asked of an infinity, or a whole number has no finite
  real number near it. -/
  | tooLarge
  | divisionByZero
  /-- A text that should spell a whole number does not. -/
  | unreadable
  /-- A negative number has no real root of even degree. -/
  | noRealRoot
  /-- What is not a number has no place among times. -/
  | unordered
deriving DecidableEq, Repr

/-- The arithmetic that compiling a template needs.  `exact` is the view through
which numbers are rounded and written with fixed places. -/
class Scalar (α : Type) extends Zero α, One α, Add α, Sub α, Neg α, Mul α, Div α where
  /-- A whole number. -/
  ofInt : Int → α
  /-- The decimal `mantissa / 10 ^ places`. -/
  ofDecimal : (mantissa places : Nat) → α
  /-- The number, unless it stands for a result that is too large. -/
  checked : α → Except NumberFault α
  /-- The same number as a real one. -/
  toReal : α → Except NumberFault α
  /-- The whole number, if the number is kept as one. -/
  whole? : α → Option Int
  lt : α → α → Bool
  le : α → α → Bool
  exact : α → Exact
  /-- The text of the number in messages. -/
  text : α → String

/-- Sines, cosines and roots, which are not rational. -/
class Analytic (α : Type) [Scalar α] where
  /-- The sine of an angle in degrees. -/
  sine : α → α
  /-- The cosine of an angle in degrees. -/
  cosine : α → α
  /-- The root of the given positive degree. -/
  root : α → Nat → α

namespace Scalar

variable {α : Type} [Scalar α]

/-- Equality as the order sees it, so that not a number equals nothing. -/
def eq (left right : α) : Bool :=
  le left right && le right left

/-- The distance from zero. -/
def magnitude (x : α) : α :=
  if lt x 0 then -x else x

/-- The least of the listed numbers, `start` included; the first of equals. -/
def least (start : α) (rest : List α) : α :=
  rest.foldl (fun best x => if lt x best then x else best) start

/-- The greatest of the listed numbers, `start` included; the first of equals. -/
def greatest (start : α) (rest : List α) : α :=
  rest.foldl (fun best x => if lt best x then x else best) start

/-- Whether the number is neither infinite nor not a number. -/
def isFinite (x : α) : Bool :=
  match exact x with
  | .notANumber | .infinite _ => false
  | .negativeZero | .finite _ => true

/-- Whether the number is not a number. -/
def isNaN (x : α) : Bool :=
  match exact x with
  | .notANumber => true
  | _ => false

/-- The number, unless it is not a number. -/
def number? (x : α) : Option α :=
  if isNaN x then none else some x

/-- Numbers count as set unless they are zero. -/
def isSet (x : α) : Bool :=
  !eq x (ofInt 0)

/-- The whole number that `round` picks next to a finite number. -/
def toWhole (round : Rat → Int) (x : α) : Except NumberFault Int :=
  match whole? x with
  | some n => .ok n
  | none =>
      match exact x with
      | .notANumber => .error .notANumber
      | .infinite _ => .error .tooLarge
      | .negativeZero => .ok 0
      | .finite value => .ok (round value)

/-- The greatest whole number that is not greater. -/
def floor (x : α) : Except NumberFault Int :=
  toWhole Rat.floor x

/-- The whole number toward zero. -/
def truncate (x : α) : Except NumberFault Int :=
  toWhole (fun value => Int.tdiv value.num value.den) x

/-- The nearest whole number, a half to the even one. -/
def round (x : α) : Except NumberFault Int :=
  toWhole
    (fun value =>
      let nearest : Int := Binary64.roundHalfEven value.num.natAbs value.den
      if value.num < 0 then -nearest else nearest) x

/-- Division that refuses a zero divisor.  Numbers that cannot meet are refused
first. -/
def divide (dividend divisor : α) : Except NumberFault α := do
  let quotient ← checked (dividend / divisor)
  if eq divisor (ofInt 0) then .error .divisionByZero else .ok quotient

/-- A real number with a fixed count of decimal places. -/
def fixed (places : Nat) (x : α) : String :=
  Fixed.text places (exact x)

/-- A real number with at most six decimal places, as filter arguments have it. -/
def compact (x : α) : String :=
  Fixed.compact (exact x)

/-- Whether two real numbers differ by at most a billionth of the greater one. -/
def isClose (left right : α) : Bool :=
  eq left right ||
    (isFinite left && isFinite right &&
      le (magnitude (left - right))
        (ofDecimal 1 9 * greatest (magnitude left) [magnitude right]))

/-! ## Comparison with tolerance

Lengths that come out of long chains of additions are compared so that a
difference below `10 ^ -12` counts as equality.  They must have a difference. -/

/-- Refuses two numbers that have no difference. -/
def comparable (left right : α) : Except NumberFault Unit := do
  let _ ← checked (left - right)

/-- The difference below which two lengths count as equal. -/
def tolerance : α :=
  ofDecimal 1 12

/-- Greater, or equal up to the tolerance. -/
def gtApprox (left right : α) : Bool :=
  let difference := left - right
  lt 0 difference || lt (magnitude difference) tolerance

/-- At least, or equal up to the tolerance. -/
def geApprox (left right : α) : Bool :=
  let difference := left - right
  le 0 difference || lt (magnitude difference) tolerance

/-- At most, or equal up to the tolerance. -/
def leApprox (left right : α) : Bool :=
  let difference := right - left
  le 0 difference || lt (magnitude difference) tolerance

end Scalar

/-- Rationals, for exact statements. -/
instance : Scalar Rat where
  zero := 0
  one := 1
  add := (· + ·)
  sub := (· - ·)
  neg := (- ·)
  mul := (· * ·)
  div := (· / ·)
  ofInt n := n
  ofDecimal mantissa places := mkRat mantissa (Nat.pow 10 places)
  checked x := .ok x
  toReal x := .ok x
  whole? x := if x.den == 1 then some x.num else none
  lt left right := decide (left < right)
  le left right := decide (left ≤ right)
  exact x := .finite x
  text x := if x.den == 1 then toString x.num else toString x.num ++ "/" ++ toString x.den

end Montage
