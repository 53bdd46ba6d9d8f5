import Montage.Geometry.Basic
import Montage.Media.Info
import Montage.Template.Basic
import Montage.Unit

/-!
# The canvas

Each side of the canvas is a count of pixels or a share of the same side of one
clip, turned as that clip is.  A clip without a picture cannot be measured against.
-/

namespace Montage.Canvas

variable {α : Type} [Scalar α] [Analytic α]

/-- The side that shares are of. -/
def reference (template : Template α) (infos : MediaMap α) (axis : Axis) : Result α α :=
  match template.size.relativeTo with
  | none => .error (.input (.geometry .sizeWithoutReference))
  | some id => do
      let info ← infos.info id
      if info.kind == .audio then .error (.input (.geometry (.audioSizeReference id)))
      let clip ← template.clip id
      let (width, height) ← turnedSides info.width info.height clip.rotate
      return axis.pick width height

/-- One side of the canvas. -/
def side (template : Template α) (infos : MediaMap α) (axis : Axis) (length : Value α) :
    Result α Int :=
  Length.resolve length
    (fun fraction => do Scalar.floor (fraction * (← reference template infos axis)))
    (fun count => Scalar.floor count)
    Length.required

/-- The size of the canvas, which must be positive. -/
def size (template : Template α) (infos : MediaMap α) : Result α Extent := do
  let width ← side template infos .horizontal template.size.width
  let height ← side template infos .vertical template.size.height
  if width ≤ 0 ∨ height ≤ 0 then .error (.input (.geometry (.emptyBackground width height)))
  return ⟨width, height⟩

end Montage.Canvas
