import Montage.Fault.Basic
import Montage.Text.Blank
import Montage.Text.Utf8

/-!
# How a command ends

The encoder tells by its status whether it has done its work, and if not, why, on its
error output.
-/

namespace Montage

/-- What the encoder leaves behind when it ends. -/
structure Outcome where
  status : Int
  errors : List UInt8

namespace Outcome

/-- The end of a command that has done its work in silence. -/
def done : Outcome := ⟨0, []⟩

/-- Takes any status but zero for a fault. -/
def check {α : Type} (outcome : Outcome) : Result α Unit :=
  if outcome.status == 0 then .ok ()
  else
    .error (.encoder outcome.status
      (String.ofList (Text.trim (Utf8.decode outcome.errors).toList)))

end Outcome

end Montage
