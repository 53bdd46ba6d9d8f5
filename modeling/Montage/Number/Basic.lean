import Montage.Number.Scalar
import Montage.Number.Shortest

/-!
# Numbers of a template

A template writes numbers with or without a point, and the difference is kept: a
whole number stays whole under addition, subtraction and multiplication with
whole numbers, and every quotient is real.  Real numbers are doubles.  A whole number
that meets a real one becomes the nearest double, and if that is infinite, the result
is too large.
-/

namespace Montage

/-- A number as a template has it, or the result of one that has no double. -/
inductive Number where
  | whole (n : Int)
  | real (x : Float)
  /-- What comes of a whole number without a double, where a double is needed. -/
  | tooLarge

namespace Number

/-- A double, unless it is infinite. -/
def finite? (x : Float) : Option Float :=
  if x.isInf then none else some x

/-- The double nearest to the number; a whole number may have none. -/
def toFloat? : Number → Option Float
  | whole n => finite? (Binary64.ofInt n)
  | real x => some x
  | tooLarge => none

/-- The number that a double is, if there is one. -/
def ofFloat? : Option Float → Number
  | some x => real x
  | none => tooLarge

/-- The value behind the number. -/
def exact : Number → Exact
  | whole n => .finite n
  | real x => (Binary64.ofFloat x).exact
  | tooLarge => .infinite false

/-- An operation on doubles, for numbers that have them. -/
def combineReal (operation : Float → Float → Float) (left right : Number) : Number :=
  ofFloat? do return operation (← left.toFloat?) (← right.toFloat?)

/-- An operation that whole numbers are closed under. -/
def combine (onWhole : Int → Int → Int) (onReal : Float → Float → Float) :
    Number → Number → Number
  | whole m, whole n => whole (onWhole m n)
  | left, right => combineReal onReal left right

/-- The quotient is real.  That of whole numbers is rounded once, so it may have a
double where they have none. -/
def divide : Number → Number → Number
  | whole m, whole n =>
      if n == 0 then real (Binary64.ofInt m.sign / 0.0)
      else
        ofFloat? (finite? (Binary64.nearest (decide (m < 0) != decide (n < 0)) m.natAbs n.natAbs))
  | left, right => combineReal (· / ·) left right

/-- A comparison that decides a whole against a real number on exact values. -/
def compare (onReal : Float → Float → Bool) (onExact : Exact → Exact → Bool) :
    Number → Number → Bool
  | real x, real y => onReal x y
  | left, right => onExact left.exact right.exact

/-- A whole number has its digits, a real one its shortest decimal. -/
def text : Number → String
  | whole n => toString n
  | real x => Shortest.text (Binary64.ofFloat x)
  | tooLarge => "inf"

/-- The number, unless it is too large. -/
def checked : Number → Except NumberFault Number
  | tooLarge => .error .tooLarge
  | x => .ok x

/-- The double nearest to the number, unless there is none. -/
def toReal (x : Number) : Except NumberFault Number :=
  checked (ofFloat? x.toFloat?)

instance : Scalar Number where
  zero := real 0.0
  one := real 1.0
  add := combine (· + ·) (· + ·)
  sub := combine (· - ·) (· - ·)
  neg
    | whole n => whole (-n)
    | real x => real (-x)
    | tooLarge => tooLarge
  mul := combine (· * ·) (· * ·)
  div := divide
  ofInt := whole
  ofDecimal mantissa places := real (Binary64.nearest false mantissa (Nat.pow 10 places))
  checked := checked
  toReal := toReal
  whole?
    | whole n => some n
    | real _ | tooLarge => none
  lt := compare (fun x y => decide (x < y)) Exact.lt
  le := compare (fun x y => decide (x ≤ y)) Exact.le
  exact := exact
  text := text

/-- The double nearest to the ratio of a circle's circumference to its
diameter. -/
def pi : Float := 3.141592653589793

/-- A function of doubles. -/
def applyReal (function : Float → Float) (x : Number) : Number :=
  ofFloat? (x.toFloat?.map function)

/-- An angle in degrees as radians: one product with the rounded quotient. -/
def radians (degrees : Float) : Float :=
  degrees * (pi / 180.0)

instance : Analytic Number where
  sine := applyReal fun degrees => (radians degrees).sin
  cosine := applyReal fun degrees => (radians degrees).cos
  root x degree := applyReal (fun x => x.pow (1.0 / Binary64.ofInt degree)) x

end Number

end Montage
