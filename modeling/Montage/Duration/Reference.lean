import Montage.Duration.Parser
import Montage.Template.Basic
import Montage.Text.Blank

/-!
# What references stand for

A reference of one step names a keypoint if there is one of that name.  Otherwise
the first step names a clip, and the others a field of it, a field of that, and so
on.  Behind a number they name its parts: every number has a real part, itself, and an
imaginary part, zero; a whole number also has a numerator, itself, and a denominator,
one; truth values have the parts of one and zero.  Null and absent fields alike are
undefined.  Only texts and numbers are durations.
-/

namespace Montage

variable {α : Type}

/-- A field of a clip, seen from outside. -/
inductive ClipField (α : Type) where
  | value (value : Value α)
  | keyframes (keyframes : List (Keyframe α))

namespace ClipField

/-- The value under a text, if there is one. -/
def ofText? (text : Option String) : Option (ClipField α) :=
  text.map fun s => value (.text s)

/-- The layout of a clip. -/
def ofLayout (layout : Layout α) : ClipField α :=
  value (.map (layout.x.entry "x" ++ layout.y.entry "y" ++ layout.width.entry "width" ++
    layout.height.entry "height" ++ layout.relativeTo.entry "relative_to"))

/-- The crop of a clip. -/
def ofEdges (crop : Edges α) : ClipField α :=
  value (.map (crop.left.entry "left" ++ crop.right.entry "right" ++ crop.top.entry "top" ++
    crop.bottom.entry "bottom"))

/-- The trim of a clip. -/
def ofTrim (trim : Trim α) : ClipField α :=
  value (.map (trim.start.entry "start" ++ trim.ending.entry "end" ++ trim.stop.entry "stop" ++
    trim.stopAtOutput.entry "stop_at_output"))

/-- The transition of a clip. -/
def ofTransition (transition : Transition α) : ClipField α :=
  value (.map (transition.fadeIn.entry "fade_in" ++ transition.fadeOut.entry "fade_out"))

/-- The rate of frames that a clip is converted to. -/
def ofFramerate (framerate : Framerate α) : ClipField α :=
  value (.map ((.text "fps", .number framerate.fps) :: framerate.smooth.entry "smooth"))

/-- The font of a text. -/
def ofFont (font : Font α) : ClipField α :=
  value (.map ([
    (.text "size", font.size), (.text "color", font.color),
    (.text "outline_color", font.outlineColor), (.text "outline_size", font.outlineSize),
    (.text "background_radius", font.backgroundRadius), (.text "padding", font.padding)] ++
    font.family.entry "family" ++ font.lineSpacing.entry "line_spacing" ++
    font.backgroundColor.entry "background_color"))

/-- The part of a number with a name. -/
def numberPart? [Scalar α] (x : α) : String → Option α
  | "real" => some x
  | "imag" => some (if (Scalar.whole? x).isSome then Scalar.ofInt 0 else 0)
  | "numerator" => (Scalar.whole? x).map fun _ => x
  | "denominator" => (Scalar.whole? x).map fun _ => Scalar.ofInt 1
  | _ => none

/-- What a step leads to: the part of a number, or an entry of a mapping. -/
def stepInto? [Scalar α] (step : String) (found : Value α) : Option (Value α) :=
  match found.numeric? with
  | some x => (numberPart? x step).map .number
  | none =>
      match found.get step with
      | .null => none
      | inner => some inner

/-- Follows further steps. -/
def descend [Scalar α] : List String → Value α → Option (ClipField α)
  | [], found => some (value found)
  | step :: steps, found => (stepInto? step found).bind (descend steps)

section Printing

variable [Scalar α]

/-- A target of a pan as messages show it. -/
def keyframeLiteral (keyframe : Keyframe α) : String :=
  s!"Keyframe(keyframe={keyframe.time.literal}, x={keyframe.x.literal}, " ++
    s!"y={keyframe.y.literal}, zoom={keyframe.zoom.literal})"

/-- A field as messages show it. -/
def literal : ClipField α → String
  | value found => found.literal
  | keyframes [keyframe] => s!"({keyframeLiteral keyframe},)"
  | keyframes list => "(" ++ ", ".intercalate (list.map keyframeLiteral) ++ ")"

end Printing

end ClipField

namespace Clip

/-- The field of a clip with a name, unless it is null. -/
def field? (clip : Clip α) : String → Option (ClipField α)
  | "id" => some (.value (.text clip.id))
  | "kind" => some (.value (.text clip.kind))
  | "file" => ClipField.ofText? clip.source.file?
  | "text" => ClipField.ofText? clip.source.text?
  | "layout" => some (.ofLayout clip.layout)
  | "crop" => some (.ofEdges clip.crop)
  | "rotate" => clip.rotate.map fun degrees => .value (.number degrees)
  | "trim" => some (.ofTrim clip.trim)
  | "duration" => if clip.duration.isNull then none else some (.value clip.duration)
  | "speed" => ClipField.ofText? clip.speed
  | "volume" => ClipField.ofText? clip.volume
  | "framerate" => clip.framerate.map .ofFramerate
  | "transition" => some (.ofTransition clip.transition)
  | "zoompan" => some (.keyframes clip.zoompan)
  | "font" => clip.source.font?.map .ofFont
  | "is_media" => some (.value (.bool clip.isMedia))
  | "is_fit" => some (.value (.bool clip.isFit))
  | _ => none

/-- The names under which a clip has fields. -/
def fieldNames : List String :=
  ["id", "kind", "file", "text", "layout", "crop", "rotate", "trim", "duration", "speed",
    "volume", "framerate", "transition", "zoompan", "font", "is_media", "is_fit"]

/-- The field of a clip behind some steps. -/
def fieldAt? [Scalar α] (clip : Clip α) : List String → Option (ClipField α)
  | [] => none
  | step :: steps =>
      match clip.field? step with
      | some (.value found) => ClipField.descend steps found
      | some (.keyframes list) => if steps.isEmpty then some (.keyframes list) else none
      | none => none

end Clip

namespace Duration

/-- A reference that has no value. -/
def refuse {β : Type} (name : List Char) (cause : ReferenceFault) : Result α β :=
  .error (.input (.duration
    (.reference (String.ofList (Expression.referenceText name)) cause)))

/-- The value that a field gives to a reference, if it can be a duration. -/
def fieldValue [Scalar α] (name : List Char) : ClipField α → Result α (Value α)
  | .value (.text s) => .ok (.text s)
  | .value (.number x) => .ok (.number x)
  | field => refuse name (.notDuration field.literal)

/-- What a reference stands for. -/
def meaning [Scalar α] (scope : Scope α) (name : List Char) : Result α (Value α) :=
  let steps := path name
  let first := steps.headD ""
  let fields := steps.tail
  match if fields.isEmpty then Value.lookup? first scope.keypoints else none with
  | some value => .ok value
  | none =>
      match clip? first scope.clips with
      | none => refuse name (.unknown first)
      | some clip =>
          if fields.isEmpty then refuse name (.noField first)
          else
            match clip.fieldAt? fields with
            | none => refuse name (.undefinedField first)
            | some field => fieldValue name field

end Duration

end Montage
