import Montage.Number.Scalar

/-!
# Sizes and places on the canvas

The encoder scales a picture, turns it, and then cuts a window out of it.  The
window is therefore part of the turned box of a turned clip and of the scaled size
of any other; that rectangle is the frame of the clip.  All of these are whole
pixels.
-/

namespace Montage

/-- The two directions of the canvas. -/
inductive Axis where
  | horizontal
  | vertical
deriving DecidableEq, Repr

namespace Axis

/-- The letter of a coordinate along the axis. -/
def letter : Axis → String
  | horizontal => "x"
  | vertical => "y"

/-- The word for an extent along the axis. -/
def extentName : Axis → String
  | horizontal => "width"
  | vertical => "height"

/-- The one of a horizontal and a vertical thing that belongs to the axis. -/
def pick {β : Type} (axis : Axis) (ofHorizontal ofVertical : β) : β :=
  match axis with
  | horizontal => ofHorizontal
  | vertical => ofVertical

/-- The edge at which coordinates begin. -/
def leading : Axis → String
  | horizontal => "left"
  | vertical => "top"

/-- The edge at which coordinates end. -/
def trailing : Axis → String
  | horizontal => "right"
  | vertical => "bottom"

end Axis

/-- A width and a height in pixels. -/
structure Extent where
  width : Int
  height : Int
deriving DecidableEq, Repr

namespace Extent

/-- The extent along an axis. -/
def along (extent : Extent) : Axis → Int
  | .horizontal => extent.width
  | .vertical => extent.height

end Extent

/-- A window in a frame. -/
structure Window where
  x : Int
  y : Int
  width : Int
  height : Int
deriving DecidableEq, Repr

namespace Window

/-- Where the window begins along an axis. -/
def offset (window : Window) : Axis → Int
  | .horizontal => window.x
  | .vertical => window.y

/-- The size of the window. -/
def size (window : Window) : Extent :=
  ⟨window.width, window.height⟩

end Window

/-- A turn, with the box around what has been turned. -/
structure Rotation (α : Type) where
  degrees : α
  bounds : Extent

/-- Where a clip stands on the canvas and how it gets there. -/
structure Geometry (α : Type) where
  x : Int
  y : Int
  scale : Extent
  rotate : Option (Rotation α)
  crop : Option Window

namespace Geometry

variable {α : Type}

/-- The rectangle that a window is cut out of. -/
def frame (geometry : Geometry α) : Extent :=
  match geometry.rotate with
  | some rotation => rotation.bounds
  | none => geometry.scale

/-- The size that is seen on the canvas. -/
def size (geometry : Geometry α) : Extent :=
  match geometry.crop with
  | some window => window.size
  | none => geometry.frame

end Geometry

variable {α : Type} [Scalar α] [Analytic α]

/-- The size of the box around a rectangle that is turned about its middle.  An
infinite angle has no sine. -/
def Extent.around (width height degrees : α) : Except NumberFault Extent := do
  let angle ← Scalar.toReal degrees
  if !Scalar.isFinite angle && !Scalar.isNaN angle then .error .notANumber
  let sine := Scalar.magnitude (Analytic.sine angle)
  let cosine := Scalar.magnitude (Analytic.cosine angle)
  return ⟨← Scalar.floor (width * cosine + height * sine),
    ← Scalar.floor (width * sine + height * cosine)⟩

/-- The sides of a rectangle that is turned if the angle is set: those of the box
around it, otherwise its own. -/
def turnedSides (width height : α) (degrees : Option α) : Except NumberFault (α × α) :=
  match degrees.filter Scalar.isSet with
  | none => .ok (width, height)
  | some degrees => do
      let box ← Extent.around width height degrees
      return (Scalar.ofInt box.width, Scalar.ofInt box.height)

end Montage
