import Montage.Color
import Montage.Path
import Montage.Template.Clip
import Montage.Template.Fields
import Montage.Unit

/-!
# Reading clips

Every field of a clip is checked as far as it can be without the rest of the
template and without its source.  The checks run in a fixed order, and the first
one that fails is the fault of the clip.
-/

namespace Montage.Template

variable {α : Type} [Scalar α]

/-! ## Trims -/

/-- The names of trim fields of which at most one may be given. -/
def exclusiveTrims (trim : Trim α) : List String :=
  (if trim.ending.isGiven then ["end"] else []) ++
    (if trim.stop.isGiven then ["stop"] else []) ++
    (if trim.stopAtOutput.isGiven then ["stop_at_output"] else [])

/-- Refuses trim fields that cannot be combined, and stops that should fit. -/
def checkTrim (id : String) (trim : Trim α) : Result α Unit :=
  let exclusive := exclusiveTrims trim
  if exclusive.length > 1 then
    Result.refuse (.exclusiveTrims id (Value.list (α := α) (exclusive.map .text)).literal)
  else if trim.stop.isFit then Result.refuse (.fitStop id "stop")
  else if trim.stopAtOutput.isFit then Result.refuse (.fitStop id "stop_at_output")
  else .ok ()

/-- Reads the trim of a clip. -/
def trim (id owner : String) (value : Value α) : Result α (Trim α) := do
  let entries ← fields ["start", "end", "stop", "stop_at_output"] (owner ++ " trim") value
  let trim : Trim α :=
    { start := Value.lookup? "start" entries
      ending := Value.lookup? "end" entries
      stop := Value.lookup? "stop" entries
      stopAtOutput := Value.lookup? "stop_at_output" entries }
  checkTrim id trim
  return trim

/-! ## Place on the canvas -/

/-- Reads the layout of a clip. -/
def layout (owner : String) (value : Value α) : Result α (Layout α) := do
  let entries ←
    fields ["x", "y", "width", "height", "relative_to"] (owner ++ " layout") value
  return {
    x := Value.lookup? "x" entries
    y := Value.lookup? "y" entries
    width := Value.lookup? "width" entries
    height := Value.lookup? "height" entries
    relativeTo := Value.lookup? "relative_to" entries }

/-- Reads the crop of a clip. -/
def crop (owner : String) (value : Value α) : Result α (Edges α) := do
  let entries ← fields ["left", "right", "top", "bottom"] (owner ++ " crop") value
  return {
    left := Value.lookup? "left" entries
    right := Value.lookup? "right" entries
    top := Value.lookup? "top" entries
    bottom := Value.lookup? "bottom" entries }

/-- Reads the angle of a clip in degrees. -/
def rotation (owner : String) : Value α → Result α (Option α)
  | .null => .ok none
  | .number degrees => .ok (some degrees)
  | value => Result.refuse (.rotate owner value)

/-! ## Pace -/

/-- Reads the transition of a clip. -/
def transition (owner : String) (value : Value α) : Result α (Transition α) := do
  let entries ← fields ["fade_in", "fade_out"] (owner ++ " transition") value
  return {
    fadeIn := Value.lookup? "fade_in" entries
    fadeOut := Value.lookup? "fade_out" entries }

/-- Reads a share such as a speed; `check` sees the fraction. -/
def share (owner name : String) (check : α → Result α Unit) : Value α → Result α (Option String)
  | .null => .ok none
  | value => do
      let fraction ← Length.resolve value .ok
        (fun _ => Result.refuse (.notPercentage owner name)) Length.required
      check fraction
      return some value.toText

/-- Reads the speed of a clip, which must be positive. -/
def speed (owner : String) (value : Value α) : Result α (Option String) :=
  share owner "speed"
    (fun fraction =>
      if Scalar.le fraction 0 then Result.refuse (.speed owner value) else .ok ())
    value

/-- Reads the volume of a clip. -/
def volume (owner : String) (value : Value α) : Result α (Option String) :=
  share owner "volume" (fun _ => .ok ()) value

/-- Reads the rate of frames that a clip is converted to. -/
def framerate (owner : String) : Value α → Result α (Option (Framerate α))
  | .null => .ok none
  | value => do
      let entries ← fields ["fps", "smooth"] (owner ++ " framerate") value
      let fps := Field.value (Value.lookup? "fps" entries)
      match fps with
      | .number rate =>
          if Scalar.le rate (Scalar.ofInt 0) then Result.refuse (.framerate owner fps)
          else return some { fps := rate, smooth := Value.lookup? "smooth" entries }
      | _ => Result.refuse (.framerate owner fps)

/-! ## Texts -/

/-- The names of the fields of a font. -/
def fontFields : List String :=
  ["size", "color", "outline_color", "outline_size", "background_radius", "padding",
    "family", "line_spacing", "background_color"]

/-- A font with the listed fields, and the usual ones for the others. -/
def fontOf (entries : List (Value α × Value α)) : Font α :=
  let orElse (name : String) (usual : Value α) : Value α :=
    (Value.lookup? name entries).getD usual
  { size := orElse "size" (.number (Scalar.ofInt 12))
    color := orElse "color" (.text "white")
    outlineColor := orElse "outline_color" (.text "black")
    outlineSize := orElse "outline_size" (.number (Scalar.ofInt 0))
    backgroundRadius := orElse "background_radius" (.number (Scalar.ofDecimal 43 1))
    padding := orElse "padding" (.number (Scalar.ofInt 12))
    family := Value.lookup? "family" entries
    lineSpacing := Value.lookup? "line_spacing" entries
    backgroundColor := Value.lookup? "background_color" entries }

/-- Refuses a value that should be a colour and is not; null is left alone. -/
def checkColor : Value α → Result α Unit
  | .null => .ok ()
  | value => do
      let _ ← Color.ofValue value
      return ()

/-- Reads the font of a text. -/
def font (owner : String) (value : Value α) : Result α (Font α) := do
  let font := fontOf (← fields fontFields (owner ++ " font") value)
  checkColor font.color
  checkColor font.outlineColor
  checkColor font.backgroundColor.value
  return font

/-! ## Pans -/

/-- One target of a pan as the entries of a mapping.  In a mapping of targets by
time, the time is the key, which a field of the target may override. -/
def keyframeEntries : Value α × Value α → Result α (Value α)
  | (time, target) =>
      match target with
      | .map entries => .ok (Value.ofEntries ((.text "keyframe", time) :: entries))
      | target =>
          if target.isSet then .error (.kind .unsupported)
          else .ok (.map [(.text "keyframe", time)])

/-- Reads one target of a pan. -/
def keyframe (owner : String) (index : Nat) (target : Value α) : Result α (Keyframe α) :=
  let missing : Result α (Keyframe α) := Result.refuse (.keyframeMissing owner index)
  match target with
  | .map entries =>
      match target.get "keyframe" with
      | .null => missing
      | time => do
          let others := entries.filter fun entry => !entry.1.isText "keyframe"
          let others ← fields ["x", "y", "zoom"] s!"{owner} zoompan {index}" (.map others)
          return {
            time
            x := Field.value (Value.lookup? "x" others)
            y := Field.value (Value.lookup? "y" others)
            zoom := Field.value (Value.lookup? "zoom" others) }
  | _ => missing

/-- Reads the targets of a pan, of which the first has the given index. -/
def keyframesFrom (owner : String) (index : Nat) : List (Value α) → Result α (List (Keyframe α))
  | [] => .ok []
  | target :: rest => do
      let first ← keyframe owner index target
      return first :: (← keyframesFrom owner (index + 1) rest)

/-- Reads the pan of a clip. -/
def zoompan (owner : String) : Value α → Result α (List (Keyframe α))
  | .null => .ok []
  | .map entries => do keyframesFrom owner 0 (← entries.mapM keyframeEntries)
  | .list targets => keyframesFrom owner 0 targets
  | _ => Result.refuse (.zoompan owner)

/-! ## Clips -/

/-- The names of the fields of a clip. -/
def clipFields : List String :=
  ["id", "file", "text", "layout", "crop", "rotate", "trim", "duration", "speed",
    "volume", "framerate", "transition", "zoompan", "font"]

/-- The id of a clip; one without an id is named by its place. -/
def clipId (index : Nat) (value : Value α) : String :=
  let id := value.get "id"
  if id.isSet then id.toText else s!"CLIP_{index}"

/-- The file that a clip names, read in a directory. -/
def mediaFile (directory : Path) (value : Value α) : String :=
  (directory.join (Path.ofText value.toText)).resolve.toText

/-- Reads a clip.  Relative files are in `directory`. -/
def readClip (directory : Path) (index : Nat) : Value α → Result α (Clip α)
  | .map entries => do
      let value := Value.map entries
      let id := clipId index value
      let owner := s!"Clip {id}"
      let _ ← fields clipFields owner value
      let file := value.get "file"
      let text := value.get "text"
      if file.isNull == text.isNull then Result.refuse (.fileOrText owner)
      let trim ← trim id owner (value.get "trim")
      if trim.stop.isGiven && !(value.get "duration").isNull then
        Result.refuse (.stopAndDuration owner)
      let layout ← layout owner (value.get "layout")
      let crop ← crop owner (value.get "crop")
      let transition ← transition owner (value.get "transition")
      let rotate ← rotation owner (value.get "rotate")
      let speed ← speed owner (value.get "speed")
      let volume ← volume owner (value.get "volume")
      let framerate ← framerate owner (value.get "framerate")
      let source ←
        if text.isNull then pure (Source.media (mediaFile directory file))
        else do pure (Source.text text.toText (← font owner (value.get "font")))
      let zoompan ← zoompan owner (value.get "zoompan")
      return {
        id, source, layout, crop, rotate, trim, duration := value.get "duration"
        speed, volume, framerate, transition, zoompan }
  | _ => Result.refuse (.notMapping s!"Clip {index}")

end Montage.Template
