import Montage.Number.Scalar

/-!
# Tempo

One tempo filter changes the speed of sound by a factor between a half and two.  A
greater change takes a chain of equal filters, and the shortest chain that is
possible is taken.  A chain of `count` filters covers the speeds from `2 ^ -count`
to `2 ^ count`, so the binary length of the speed bounds the search; a few steps
more make up for rounding in the roots.
-/

namespace Montage.Tempo

variable {α : Type} [Scalar α]

/-- Whether one filter can change the speed by the factor. -/
def isPossible (factor : α) : Bool :=
  Scalar.le (Scalar.ofDecimal 5 1) factor && Scalar.le factor (Scalar.ofInt 2)

/-- More filters than any chain for the speed has. -/
def bound (speed : α) : Nat :=
  match (Scalar.exact speed).value? with
  | some value => value.num.natAbs.log2 + value.den.log2 + 4
  | none => 0

/-- The first count from `count` on that passes a test, if it is found in `steps`
steps. -/
def firstFrom? (test : Nat → Bool) (count : Nat) : (steps : Nat) → Option Nat
  | 0 => none
  | steps + 1 => if test count then some count else firstFrom? test (count + 1) steps

/-- The length of the shortest chain for a speed, where a test tells which lengths are
possible. -/
def shortest? (speed : α) (test : Nat → Bool) : Option Nat :=
  firstFrom? test 1 (bound speed)

/-- Whether a chain of a given length can change the speed by a positive rational.  The
factor of each filter is the root of that degree, so it lies between a half and two
exactly when the speed lies between these powers. -/
def covers (speed : Rat) (count : Nat) : Bool :=
  let power := Nat.pow 2 count
  speed.den ≤ speed.num.natAbs * power && speed.num.natAbs ≤ speed.den * power

variable [Analytic α]

/-- The factors of the filters for a speed: none for normal speed.  Only a positive
speed has any. -/
def factors (speed : α) : Except NumberFault (List α) := do
  let speed ← Scalar.toReal speed
  if Scalar.isClose speed (Scalar.ofInt 1) then .ok []
  else if Scalar.lt (Scalar.ofInt 0) speed then
    match shortest? speed fun count => isPossible (Analytic.root speed count) with
    | some count => .ok (List.replicate count (Analytic.root speed count))
    | none => .error .noRealRoot
  else .error .noRealRoot

/-- The name of a tempo filter. -/
def filterName : String :=
  "atempo"

/-- One tempo filter. -/
def filterText (factor : α) : String :=
  filterName ++ "=" ++ Scalar.compact factor

end Montage.Tempo
