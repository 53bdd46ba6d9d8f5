import Montage.Template.Basic
import Montage.Template.ClipFields

/-!
# Reading templates

A tree of values is read clip by clip, then the size of the canvas, then the
timeline, then the keypoints.  A template without a timeline has one layer for
each clip, all of them beginning with the output.
-/

namespace Montage.Template

variable {α : Type} [Scalar α]

/-- The time at which the output begins. -/
def beginning : String := "00:00:00"

/-- Reads clips of which the first has the given index; `known` are the ids of
those before it. -/
def readClipsFrom (directory : Path) (index : Nat) (known : List String) :
    List (Value α) → Result α (List (Clip α))
  | [] => .ok []
  | value :: rest => do
      let clip ← readClip directory index value
      if known.contains clip.id then Result.refuse (.duplicateClip clip.id)
      return clip :: (← readClipsFrom directory (index + 1) (clip.id :: known) rest)

/-- Reads the clips of a template, of which there must be one. -/
def readClips (directory : Path) : Value α → Result α (List (Clip α))
  | .list (first :: rest) => readClipsFrom directory 0 [] (first :: rest)
  | _ => Result.refuse .noClips

/-- The clip that shares of the size are of: the one named, which must be media, or
the first media clip. -/
def sizeReference (clips : List (Clip α)) : Value α → Result α (Option String)
  | .null => .ok ((clips.find? Clip.isMedia).map Clip.id)
  | value =>
      match clips.find? fun clip => value.isText clip.id with
      | none => Result.refuse (.sizeReference value)
      | some clip =>
          if clip.isMedia then .ok (some clip.id) else Result.refuse .textSizeReference

/-- Whether a length of the canvas is a share of something. -/
def isShare (length : Value α) : Result α Bool :=
  Length.resolve length (fun _ => .ok true) (fun _ => .ok false) Length.required

/-- The value of a field, or a text in place of one that is not set. -/
def setOr (usual : String) (field : Field α) : Value α :=
  if field.value.isSet then field.value else .text usual

/-- Reads the size of the canvas. -/
def readSize (clips : List (Clip α)) (value : Value α) : Result α (SizeSpec α) := do
  let entries ← fields ["width", "height", "relative_to", "background_color"] "size" value
  let relativeTo ← sizeReference clips (Field.value (Value.lookup? "relative_to" entries))
  let width := setOr "100%" (Value.lookup? "width" entries)
  let height := setOr "100%" (Value.lookup? "height" entries)
  let background := setOr "black" (Value.lookup? "background_color" entries)
  let _ ← Color.ofValue background
  if relativeTo.isNone then
    if ← isShare width then Result.refuse .sizeWithoutMedia
    if ← isShare height then Result.refuse .sizeWithoutMedia
  return { width, height, relativeTo, backgroundColor := background.toText }

/-- Reads a layer.  It is a list of clip ids, or a mapping that has one and a place
in the stack of layers, which otherwise is the place in the list of layers. -/
def readLayer (owner : String) (index : Nat) (value : Value α) : Result α Layer := do
  let owner := s!"{owner} layer {index}"
  let place : Value α := .number (Scalar.ofInt index)
  let (clips, zIndex) ←
    match value with
    | .map _ => do
        let _ ← fields ["clips", "z_index"] owner value
        pure (value.get "clips", (value.get? "z_index").getD place)
    | _ => pure (value, place)
  match clips with
  | .list ids =>
      match zIndex with
      | .number z =>
          match Scalar.whole? z with
          | some n => return { clips := ids.map Value.toText, zIndex := n }
          | none => Result.refuse (.zIndex owner zIndex)
      | _ => Result.refuse (.zIndex owner zIndex)
  | _ => Result.refuse (.notClipIds owner)

/-- Reads layers of which the first has the given index. -/
def readLayersFrom (owner : String) (index : Nat) : List (Value α) → Result α (List Layer)
  | [] => .ok []
  | value :: rest => do
      let first ← readLayer owner index value
      return first :: (← readLayersFrom owner (index + 1) rest)

/-- Reads the layers that begin at one time. -/
def readStart : Value α × Value α → Result α (Value α × List Layer)
  | (start, layers) =>
      let owner := s!"timeline {start.toText}"
      match layers with
      | .list values => do return (start, ← readLayersFrom owner 0 values)
      | _ => Result.refuse (.notLayers owner)

/-- One layer for each clip, stacked in their order. -/
def defaultTimeline (clips : List (Clip α)) : List (Value α × List Layer) :=
  [(.text beginning, clips.zipIdx.map fun (clip, index) => { clips := [clip.id], zIndex := index })]

/-- Reads the timeline. -/
def readTimeline (clips : List (Clip α)) : Value α → Result α (List (Value α × List Layer))
  | .null => .ok (defaultTimeline clips)
  | .map (first :: rest) => (first :: rest).mapM readStart
  | _ => Result.refuse .timeline

/-- Reads the keypoints. -/
def readKeypoints (value : Value α) : Result α (List (Value α × Value α)) :=
  match value with
  | .map entries => .ok entries
  | _ => if value.isSet then Result.refuse .keypoints else .ok []

/-- Reads a template whose relative files are in `directory`. -/
def read (directory : Path) (value : Value α) : Result α (Template α) := do
  let clips ← readClips directory (value.get "clips")
  let size ← readSize clips (value.get "size")
  let timeline ← readTimeline clips (value.get "timeline")
  let keypoints ← readKeypoints (value.get "keypoints")
  return {
    clips, size, timeline, keypoints, directory
    preview := setOr beginning (some (value.get "preview")) }

end Montage.Template
