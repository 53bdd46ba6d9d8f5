import Montage.Zoompan.Segment

/-!
# Pans as expressions of the encoder

The encoder evaluates the offset of a window at every frame `n`.  The segments of a
pan become a chain of comparisons: up to the first segment that moves the
coordinate it is where the crop put it, then the first segment that has not ended
decides, and behind the last one the coordinate stays.
-/

namespace Montage

variable {α : Type} [Scalar α]

/-- An expression over the frame number.  Its text shows real numbers, which it has
once `toReal` has made them real; a formula shows its numbers as they are. -/
inductive PanExpression (α : Type) where
  /-- An offset in whole pixels. -/
  | offset (pixels : Int)
  /-- An offset at which the window rests. -/
  | held (position : α)
  | moving (formula : LinearFormula α)
  /-- The first expression up to a frame, the second from there on. -/
  | before (frame : α) (first second : PanExpression α)

namespace PanExpression

/-- The expression as the encoder reads it. -/
def text : PanExpression α → String
  | offset pixels => toString pixels
  | held position => Scalar.compact position
  | moving formula => formula.text
  | before frame first second => s!"if(lt(n,{Scalar.compact frame}),{first.text},{second.text})"

/-- The same expression with real numbers where its text shows real numbers. -/
def toReal : PanExpression α → Except NumberFault (PanExpression α)
  | offset pixels => .ok (offset pixels)
  | held position => do return held (← Scalar.toReal position)
  | moving formula => .ok (moving formula)
  | before frame first second => do
      return before (← Scalar.toReal frame) (← first.toReal) (← second.toReal)

/-- The offset that the expression has at a frame. -/
def value (frame : α) : PanExpression α → α
  | offset pixels => Scalar.ofInt pixels
  | held position => position
  | moving formula => formula.evaluate frame
  | before limit first second =>
      if Scalar.lt frame limit then first.value frame else second.value frame

/-- A coordinate during a segment. -/
def ofMotion (motion : Motion α) : PanExpression α :=
  match motion.formula with
  | some formula => moving formula
  | none => held motion.start

/-- A coordinate from the beginning of a segment on. -/
def ofSegments (axis : Axis) (framerate : α) (segment : Segment α) :
    List (Segment α) → PanExpression α
  | [] =>
      before (segment.endAt * framerate) (ofMotion (segment.along axis))
        (held (segment.along axis).final)
  | next :: rest =>
      before (segment.endAt * framerate) (ofMotion (segment.along axis))
        (ofSegments axis framerate next rest)

/-- A coordinate of the window, which is `base` before it moves. -/
def ofPan (segments : List (Segment α)) (axis : Axis) (framerate : α) (base : Int) :
    PanExpression α :=
  match segments.dropWhile fun segment => !(segment.along axis).moves with
  | [] => offset base
  | first :: rest =>
      before (first.startAt * framerate) (offset base) (ofSegments axis framerate first rest)

end PanExpression

end Montage
