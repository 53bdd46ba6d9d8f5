import Montage.Template.Clip
import Montage.Text.WholeNumber
import Montage.TextImage.Painter

/-!
# Pictures of texts

A text is set in lines on a patch that is just large enough, or as wide as asked.
The patch is transparent or has a background with round corners, and the text has an
outline.  What is drawn is a list of calls; each may fail in its colours after those
before it have been made.
-/

namespace Montage

variable {α : Type} [Scalar α]

/-- A text as it is set. -/
structure TextImage (α : Type) where
  content : String
  face : Face
  padding : Int
  outline : Int
  spacing : Value α
  /-- Where the box of the text begins when it is drawn at the origin. -/
  left : Int
  top : Int
  width : Int
  height : Int

namespace TextImage

/-- A whole number in a font: fractions are cut off, and texts may spell one. -/
def whole : Value α → Result α Int
  | .number x => Scalar.truncate x
  | .bool b => .ok (if b then 1 else 0)
  | .text s =>
      match Text.wholeNumber? 10 s.toList with
      | some n => .ok n
      | none => .error (.number .unreadable)
  | _ => .error (.kind .unsupported)

/-- A whole number that is zero when it is not set. -/
def wholeOrZero (value : Value α) : Result α Int :=
  if value.isSet then whole value else .ok 0

/-- The value of a field, or another one when it is not set. -/
def setOr (usual : α) (value : Value α) : Value α :=
  if value.isSet then value else .number usual

/-- A side of a patch in pixels, which is at least one. -/
def side (length : α) : Result α Int := do
  let length ← Scalar.checked length
  if Scalar.lt (Scalar.ofInt 1) length then
    match Scalar.whole? length with
    | some n => .ok n
    | none => .error (.kind .unsupported)
  else .ok 1

/-- The box around a text with an outline and a spacing, which has to be a number. -/
def boxOf (painter : Painter α) (face : Face) (outline : Int) (spacing : Value α)
    (content : String) : Result α (TextBox α) :=
  match spacing.numeric? with
  | some spacing => .ok (painter.box face outline spacing (Text.parts '\n' content.toList))
  | none => .error (.kind .unsupported)

/-- Sets a text in a font, on a patch of the given width if there is one. -/
def setBy (painter : Painter α) (usable : Path → Bool) (text : String) (font : Font α)
    (width : Option Int) : Result α (TextImage α) := do
  let face ← painter.load usable (← whole font.size) font.family.value
  let padding ← wholeOrZero font.padding
  let outline ← wholeOrZero font.outlineSize
  let spacing := setOr (Scalar.ofInt 4) font.lineSpacing.value
  let limit : Option α := width.map fun width => Scalar.ofInt (width - 2 * padding)
  let content := painter.wrap face limit text
  let box ← boxOf painter face outline spacing content
  let width := width.getD (box.right - box.left + 2 * padding)
  return {
    content, face, padding, outline, spacing
    left := box.left
    top := box.top
    width := max 1 width
    height := ← side (box.bottom - Scalar.ofInt box.top + Scalar.ofInt (2 * padding)) }

/-- The call that fills the background, if the font has one. -/
def backgroundCall (image : TextImage α) (font : Font α) : Option (Result α (DrawCall α)) :=
  let color := font.backgroundColor.value
  if color.isSet then
    some do
      let radius := setOr (Scalar.ofInt 0) font.backgroundRadius
      return .rectangle (image.width - 1) (image.height - 1) radius (← Color.ofValue color)
  else none

/-- The call that draws the text. -/
def textCall (image : TextImage α) (font : Font α) : Result α (DrawCall α) := do
  let fill ← Color.ofValue font.color
  let outlineFill ← Color.ofValue font.outlineColor
  return .text (image.padding - image.left) (image.padding - image.top) image.content image.face
    image.spacing image.outline fill outlineFill

/-- All calls, in order. -/
def calls (image : TextImage α) (font : Font α) : List (Result α (DrawCall α)) :=
  (image.backgroundCall font).toList ++ [image.textCall font]

end TextImage

end Montage
