import Montage.Geometry.Canvas
import Montage.Template.Fields

/-!
# Placing clips

A clip is scaled, turned, cropped and then put on the canvas.  Shares in its
layout are of the canvas, or of the visible size of a clip that stands before it in
the template, so clips are placed in their order and each looks back at those
already placed.  Sizes are rounded down as soon as they are known, because the
encoder rounds them down too and a window must fit into what is really there.
-/

namespace Montage

variable {α : Type} [Scalar α]

/-- The geometry of clips by clip id. -/
abbrev GeometryMap (α : Type) := List (String × Geometry α)

namespace Placement

/-- A fault of geometry. -/
def refuse {β : Type} (cause : GeometryFault α) : Result α β :=
  .error (.input (.geometry cause))

/-! ## Scale -/

/-- The size that shares in a layout are of. -/
def reference (id : String) (relativeTo : Value α) (canvas : Extent) (placed : GeometryMap α) :
    Result α Extent :=
  let unknown : Result α Extent := refuse (.layoutReference id relativeTo)
  match relativeTo with
  | .null => .ok canvas
  | .text other =>
      match placed.lookup other with
      | some geometry => .ok geometry.size
      | none => unknown
  | .list _ | .map _ => .error (.kind .unsupported)
  | _ => unknown

/-- A side that a layout gives, if it gives it. -/
def givenSide (whole : Int) (length : Value α) : Result α (Option α) :=
  Length.resolve length
    (fun fraction => do return some (← Scalar.checked (fraction * Scalar.ofInt whole)))
    (fun count => .ok (some count))
    (.ok none)

/-- A side in whole pixels; a side that is unknown has none. -/
def wholeSide : Option α → Except NumberFault Int
  | some side => Scalar.floor side
  | none => .error .notANumber

/-- The scaled width before rounding: given, or following the given height, or
natural. -/
def scaledWidth (info : MediaInfo α) (width height : Option α) : Option α :=
  match width, height with
  | some width, _ => some width
  | none, some height => info.aspectRatio.map fun ratio => height * ratio
  | none, none => some info.width

/-- The scaled height before rounding: given, or following the given width, or
natural. -/
def scaledHeight (info : MediaInfo α) (width height : Option α) :
    Except NumberFault (Option α) :=
  match width, height with
  | _, some height => .ok (some height)
  | some width, none =>
      match info.aspectRatio with
      | some ratio => do return some (← Scalar.divide width ratio)
      | none => .ok none
  | none, none => .ok (some info.height)

/-- The size to which a clip is scaled. -/
def scale (clip : Clip α) (info : MediaInfo α) (whole : Extent) : Result α Extent := do
  let givenWidth ← givenSide whole.width clip.layout.width.value
  let givenHeight ← givenSide whole.height clip.layout.height.value
  let scaledHeight ← scaledHeight info givenWidth givenHeight
  let width ← wholeSide (scaledWidth info givenWidth givenHeight)
  let height ← wholeSide scaledHeight
  if width < 0 ∨ height < 0 then refuse (.negativeScale clip.id width height)
  return ⟨width, height⟩

/-! ## Crop -/

/-- What is taken off one edge. -/
def trimmed (whole : Int) (edge : Field α) : Result α Int :=
  if edge.value.isSet then do
    Scalar.floor (← Length.within (Scalar.ofInt whole) edge.value Length.required)
  else .ok 0

/-- Whether any edge is cropped. -/
def isCropped (crop : Edges α) : Bool :=
  crop.left.value.isSet || crop.right.value.isSet || crop.top.value.isSet ||
    crop.bottom.value.isSet

/-- A window must not be empty and must lie inside the frame. -/
def checkWindow (id : String) (axis : Axis) (offset extent whole : Int) : Result α Unit :=
  if offset < 0 ∨ extent ≤ 0 ∨ offset + extent > whole then
    refuse (.cropOutside id axis.letter axis.extentName offset extent whole)
  else .ok ()

/-- The window that is left of a frame. -/
def window (id : String) (crop : Edges α) (frame : Extent) : Result α Window := do
  let right ← trimmed frame.width crop.right
  let bottom ← trimmed frame.height crop.bottom
  let left ← trimmed frame.width crop.left
  let top ← trimmed frame.height crop.top
  let window : Window :=
    ⟨left, top, frame.width - right - left, frame.height - bottom - top⟩
  checkWindow id .horizontal window.x window.width frame.width
  checkWindow id .vertical window.y window.height frame.height
  return window

/-! ## Position -/

/-- Which edge of the canvas a clip keeps to. -/
inductive Alignment where
  | leading
  | middle
  | trailing
deriving DecidableEq, Repr

/-- The alignment that a word means along an axis. -/
def alignment? (axis : Axis) (word : String) : Option Alignment :=
  if word == axis.leading then some .leading
  else if word == "center" then some .middle
  else if word == axis.trailing then some .trailing
  else none

/-- The alignment that a value means along an axis. -/
def alignment (id : String) (axis : Axis) (value : Value α) : Result α Alignment :=
  let invalid : Result α Alignment :=
    refuse (.alignment id axis.letter value
      (Value.sortedNames (α := α) [axis.leading, "center", axis.trailing]))
  match value with
  | .text word =>
      match alignment? axis word with
      | some alignment => .ok alignment
      | none => invalid
  | .list _ | .map _ => .error (.kind .unsupported)
  | _ => invalid

/-- The parts of a position: how it is aligned, and by how much it is off.  A
position is a mapping of both, or one of the words for alignments, or an offset. -/
def positionParts (id : String) (axis : Axis) : Value α → Result α (Value α × Value α)
  | .map entries =>
      match Value.unknownKeys ["offset", "align"] entries with
      | [] =>
          let align := Field.value (Value.lookup? "align" entries)
          .ok (if align.isSet then align else .text axis.leading,
            Field.value (Value.lookup? "offset" entries))
      | unknown => do
          let sorted ← Value.sortedKeys unknown
          refuse (.unknownPositionFields id axis.letter (Value.list sorted).literal)
  | .text word =>
      if (alignment? axis word).isSome then .ok (.text word, .null)
      else .ok (.text axis.leading, .text word)
  | offset => .ok (.text axis.leading, offset)

/-- The coordinate of a clip on the canvas.  `whole` is what shares are of and
`extent` the visible extent of the clip. -/
def position (id : String) (axis : Axis) (spec : Value α) (canvas whole extent : Int) :
    Result α Int := do
  let (align, offset) ← positionParts id axis spec
  let alignment ← alignment id axis align
  let offset ← Length.within (Scalar.ofInt whole) offset (.ok (Scalar.ofInt 0))
  let position : α :=
    match alignment with
    | .leading => offset
    | .middle =>
        Scalar.ofInt canvas / Scalar.ofInt 2 - Scalar.ofInt extent / Scalar.ofInt 2 + offset
    | .trailing => Scalar.ofInt (canvas - extent) + offset
  Scalar.floor position

/-! ## Clips -/

variable [Analytic α]

/-- The turn of a clip that has been scaled. -/
def turn (clip : Clip α) (scale : Extent) : Result α (Option (Rotation α)) :=
  match clip.rotate.filter Scalar.isSet with
  | none => .ok none
  | some degrees => do
      let bounds ← Extent.around (Scalar.ofInt scale.width) (Scalar.ofInt scale.height) degrees
      return some ⟨degrees, bounds⟩

/-- The geometry of a clip, where `placed` is the geometry of those before it. -/
def clip (canvas : Extent) (placed : GeometryMap α) (clip : Clip α) (info : MediaInfo α) :
    Result α (Geometry α) := do
  let whole ← reference clip.id clip.layout.relativeTo.value canvas placed
  let scale ← scale clip info whole
  let rotate ← turn clip scale
  let frame := (rotate.map Rotation.bounds).getD scale
  let crop ←
    if isCropped clip.crop then do pure (some (← window clip.id clip.crop frame))
    else pure none
  let size := (crop.map Window.size).getD frame
  let x ← position clip.id .horizontal clip.layout.x.value canvas.width whole.width size.width
  let y ← position clip.id .vertical clip.layout.y.value canvas.height whole.height size.height
  return { x, y, scale, rotate, crop }

/-- Places clips one after another behind those already placed.  Clips without a
picture are left out. -/
def clipsAfter (canvas : Extent) (infos : MediaMap α) (placed : GeometryMap α) :
    List (Clip α) → Result α (GeometryMap α)
  | [] => .ok placed
  | next :: rest => do
      let info ← infos.info next.id
      if info.kind == .audio then clipsAfter canvas infos placed rest
      else do
        let geometry ← clip canvas placed next info
        clipsAfter canvas infos (placed ++ [(next.id, geometry)]) rest

end Placement

/-- Places the clips of a template on the canvas. -/
def Template.geometry [Analytic α] (template : Template α) (canvas : Extent)
    (infos : MediaMap α) : Result α (GeometryMap α) :=
  Placement.clipsAfter canvas infos [] template.clips

end Montage
