import Montage.Geometry.Basic
import Montage.Number.Scalar

/-!
# Segments of a pan

Between two keyframes each coordinate of the window rests or moves evenly.  While
it moves it follows a linear formula over the frame number, which the encoder
evaluates frame by frame and a preview evaluates once.
-/

namespace Montage

variable {α : Type} [Scalar α]

/-- An offset that is linear in the frame number. -/
structure LinearFormula (α : Type) where
  frameOffset : α
  step : α
  start : α

namespace LinearFormula

/-- The offset at a frame. -/
def evaluate (formula : LinearFormula α) (frame : α) : α :=
  (frame - formula.frameOffset) * formula.step + formula.start

/-- The formula as an expression over `n`. -/
def text (formula : LinearFormula α) : String :=
  s!"(n - {Scalar.text formula.frameOffset})*{Scalar.text formula.step}" ++
    s!"+{Scalar.text formula.start}"

/-- The formula that goes from `start` to `destination` between two times.  Without
any frame between them it is the destination at once. -/
def between (startAt endAt framerate start destination : α) : LinearFormula α :=
  let frames := (endAt - startAt) * framerate
  let before := startAt * framerate
  if Scalar.eq frames (Scalar.ofInt 0) then ⟨before, 0, destination⟩
  else ⟨before, (destination - start) / frames, start⟩

end LinearFormula

/-- One coordinate of the window during a segment. -/
structure Motion (α : Type) where
  start : α
  destination : Option α
  formula : Option (LinearFormula α)

namespace Motion

/-- A coordinate that rests. -/
def resting (start : α) : Motion α :=
  ⟨start, none, none⟩

/-- A coordinate that moves from `start` to `destination`. -/
def moving (startAt endAt framerate start destination : α) : Motion α :=
  ⟨start, some destination, some (.between startAt endAt framerate start destination)⟩

/-- The coordinate at the end of the segment. -/
def final (motion : Motion α) : α :=
  motion.destination.getD motion.start

/-- Whether the coordinate moves. -/
def moves (motion : Motion α) : Bool :=
  motion.formula.isSome

/-- The coordinate at a frame of the segment. -/
def atFrame (motion : Motion α) (frame : α) : α :=
  match motion.formula with
  | some formula => formula.evaluate frame
  | none => motion.start

end Motion

/-- The time between two keyframes. -/
structure Segment (α : Type) where
  startAt : α
  endAt : α
  x : Motion α
  y : Motion α
  startZoom : α
  destinationZoom : Option α

namespace Segment

/-- The coordinate along an axis. -/
def along (segment : Segment α) : Axis → Motion α
  | .horizontal => segment.x
  | .vertical => segment.y

/-- Whether the segment has begun at a time. -/
def begun (segment : Segment α) (time : α) : Bool :=
  Scalar.le segment.startAt time

/-- Whether a time is in the segment, its ends included. -/
def covers (segment : Segment α) (time : α) : Bool :=
  segment.begun time && Scalar.le time segment.endAt

end Segment

/-- The offset of the window along an axis at a time.  Up to the first segment that
moves it the offset is `base`.  A time at which two segments meet belongs to the
later one, and behind all segments the offset stays where the last one begun left
it.  Every time that is ordered lies before, in or behind the segments. -/
def panOffset (segments : List (Segment α)) (axis : Axis) (time framerate base : α) :
    Except NumberFault α :=
  match segments.find? fun segment => (segment.along axis).moves with
  | none => .ok base
  | some first =>
      if Scalar.lt time first.startAt then .ok base
      else
        match (segments.filter fun segment => segment.covers time).getLast? with
        | some segment => Scalar.checked ((segment.along axis).atFrame (time * framerate))
        | none =>
            match (segments.filter fun segment => segment.begun time).getLast? with
            | some segment => .ok (segment.along axis).final
            | none => .error .unordered

end Montage
