import Montage.Plan.Basic
import Montage.Text.Json

/-!
# Plans as documents

A plan is shown as a JSON document with the members in a fixed order.  Of a
geometry and of a segment only what is there is listed.  The numbers that JSON does
not have are written by the words that most readers of JSON know.
-/

namespace Montage.Plan

variable {α : Type} [Scalar α]

/-- A number in a document. -/
def numeral (x : α) : Json :=
  .numeral <|
    match Scalar.exact x with
    | .notANumber => "NaN"
    | .infinite negative => if negative then "-Infinity" else "Infinity"
    | .negativeZero | .finite _ => Scalar.text x

/-- A whole number in a document. -/
def wholeNumeral (n : Int) : Json :=
  .numeral (toString n)

/-- A member that is left out when there is nothing to list. -/
def member? (name : String) (value : Option Json) : List (String × Json) :=
  match value with
  | some value => [(name, value)]
  | none => []

/-- A width and a height. -/
def extentMembers (extent : Extent) : List (String × Json) :=
  [("width", wholeNumeral extent.width), ("height", wholeNumeral extent.height)]

/-- A turn. -/
def rotationDocument (rotation : Rotation α) : Json :=
  .object (("degrees", numeral rotation.degrees) :: extentMembers rotation.bounds)

/-- A window. -/
def windowDocument (window : Window) : Json :=
  .object (("x", wholeNumeral window.x) :: ("y", wholeNumeral window.y) ::
    extentMembers window.size)

/-- A geometry. -/
def geometryDocument (geometry : Geometry α) : Json :=
  .object (
    [("x", wholeNumeral geometry.x), ("y", wholeNumeral geometry.y),
      ("scale", .object (extentMembers geometry.scale))] ++
    member? "rotate" (geometry.rotate.map rotationDocument) ++
    member? "crop" (geometry.crop.map windowDocument))

/-- A formula as an expression. -/
def formulaDocument (formula : LinearFormula α) : Json :=
  .string formula.text

/-- A segment of a pan. -/
def segmentDocument (segment : Segment α) : Json :=
  .object (
    [("start_at", numeral segment.startAt), ("end_at", numeral segment.endAt),
      ("start_x", numeral segment.x.start), ("start_y", numeral segment.y.start),
      ("start_zoom", numeral segment.startZoom)] ++
    member? "dest_x" (segment.x.destination.map numeral) ++
    member? "dest_y" (segment.y.destination.map numeral) ++
    member? "dest_zoom" (segment.destinationZoom.map numeral) ++
    member? "x_expression" (segment.x.formula.map formulaDocument) ++
    member? "y_expression" (segment.y.formula.map formulaDocument))

/-- The segments of a pan, if there are any. -/
def panDocument? (segments : List (Segment α)) : Option Json :=
  if segments.isEmpty then none else some (.array (segments.map segmentDocument))

/-- One clip of a plan. -/
def clipDocument (clip : PlannedClip α) : Json :=
  .object (
    [("clip_id", .string clip.clipId), ("file", (clip.file.map Json.string).getD .null),
      ("start_at", numeral clip.startAt), ("duration", numeral clip.duration),
      ("trim_start", numeral clip.trimStart), ("speed", numeral clip.speed),
      ("z_index", wholeNumeral clip.zIndex)] ++
    member? "geometry" (clip.geometry.map geometryDocument) ++
    member? "zoompan" (panDocument? clip.zoompan))

/-- A plan. -/
def document (plan : Plan α) : Json :=
  .object [
    ("total_duration", numeral plan.total),
    ("background", .object (extentMembers plan.background ++
      [("color", .string plan.backgroundColor)])),
    ("preview", numeral plan.preview),
    ("clips", .array (plan.clips.map clipDocument))]

end Montage.Plan
