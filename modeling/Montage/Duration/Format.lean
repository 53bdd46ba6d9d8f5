import Montage.Number.Scalar

/-!
# Lengths of time in status lines

A length of time is shown in seconds up to a hundred of them, then in minutes up
to a hundred of those, then in hours.
-/

namespace Montage.Duration

/-- The short text of a length of time in seconds. -/
def format {α : Type} [Scalar α] (seconds : α) : Except NumberFault String := do
  let real ← Scalar.toReal seconds
  if Scalar.isNaN real then return "?"
  let minutes := seconds / Scalar.ofInt 60
  if Scalar.le (Scalar.ofInt 100) minutes then
    return Scalar.fixed 1 (minutes / Scalar.ofInt 60) ++ "h"
  if Scalar.le (Scalar.ofInt 100) seconds then
    return Scalar.fixed 1 minutes ++ "m"
  return Scalar.fixed 0 real ++ "s"

end Montage.Duration
