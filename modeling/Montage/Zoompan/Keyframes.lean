import Montage.Duration.Evaluation
import Montage.Geometry.Placement
import Montage.Zoompan.Segment

/-!
# From keyframes to segments

Keyframes are put in the order of their times, and each one ends a segment that
begins where the one before it ended.  Shifts add up from zero and must keep the
window inside the frame; a zoom stands for itself.  Only a cropped clip has a
window that can be moved.  The segments are handed out in the order in which they begin.
-/

namespace Montage

variable {α : Type} [Scalar α]

namespace Zoompan

/-- A fault of a pan. -/
def refuse {β : Type} (cause : ZoompanFault α) : Result α β :=
  .error (.input (.zoompan cause))

/-- Where the window stands between two keyframes. -/
structure State (α : Type) where
  time : α
  x : α
  y : α
  zoom : α

namespace State

/-- The window before the first keyframe. -/
def initial : State α :=
  ⟨0, 0, 0, 1⟩

/-- The coordinate along an axis. -/
def along (state : State α) : Axis → α
  | .horizontal => state.x
  | .vertical => state.y

end State

/-- The shift of a keyframe along an axis. -/
def shift (keyframe : Keyframe α) : Axis → Value α
  | .horizontal => keyframe.x
  | .vertical => keyframe.y

/-- The motion along an axis up to a keyframe at `time`. -/
def motion (id : String) (geometry : Geometry α) (framerate : α) (state : State α) (time : α)
    (keyframe : Keyframe α) (axis : Axis) : Result α (Motion α) :=
  let start := state.along axis
  let value := shift keyframe axis
  if value.isNull then .ok (.resting start)
  else
    match geometry.crop with
    | none => refuse (.panWithoutCrop id)
    | some window => do
        let whole := geometry.frame.along axis
        let destination :=
          start + (← Length.within (Scalar.ofInt whole) value Length.required)
        let bound := whole - window.size.along axis
        if Scalar.lt destination (Scalar.ofInt 0) || Scalar.lt (Scalar.ofInt bound) destination then
          refuse (.panOutside id axis.letter keyframe.time bound destination)
        return .moving state.time time framerate start destination

/-- The zoom that a keyframe sets, if it sets one. -/
def zoom (id : String) (keyframe : Keyframe α) : Result α (Option α) :=
  if keyframe.zoom.isNull then .ok none
  else do
    let zoom ← Length.percentage? keyframe.zoom
    if Scalar.le zoom (Scalar.ofInt 0) then refuse (.zoom id keyframe.zoom)
    return some zoom

/-- The segment up to a keyframe at `time`. -/
def segment (id : String) (geometry : Geometry α) (framerate : α) (state : State α) (time : α)
    (keyframe : Keyframe α) : Result α (Segment α) := do
  if Scalar.lt time (Scalar.ofInt 0) then refuse (.negativeKeyframe id keyframe.time)
  let x ← motion id geometry framerate state time keyframe .horizontal
  let y ← motion id geometry framerate state time keyframe .vertical
  let destinationZoom ← zoom id keyframe
  return { startAt := state.time, endAt := time, x, y, startZoom := state.zoom, destinationZoom }

/-- Where the window stands behind a segment. -/
def after (segment : Segment α) : State α :=
  ⟨segment.endAt, segment.x.final, segment.y.final,
    segment.destinationZoom.getD segment.startZoom⟩

/-- The segments up to each of the keyframes, which are in order. -/
def segmentsFrom (id : String) (geometry : Geometry α) (framerate : α) (state : State α) :
    List (α × Keyframe α) → Result α (List (Segment α))
  | [] => .ok []
  | (time, keyframe) :: rest => do
      let first ← segment id geometry framerate state time keyframe
      return first :: (← segmentsFrom id geometry framerate (after first) rest)

/-- Keyframes with their times in seconds, earlier ones first. -/
def timed (scope : Scope α) (keyframes : List (Keyframe α)) :
    Result α (List (α × Keyframe α)) := do
  let timed ← keyframes.mapM fun keyframe => do
    return (← Duration.ofValue scope keyframe.time, keyframe)
  return timed.mergeSort fun earlier later => !Scalar.lt later.1 earlier.1

/-- The segments of a clip. -/
def segments (scope : Scope α) (clip : Clip α) (geometry : Geometry α) (framerate : α) :
    Result α (List (Segment α)) := do
  let made ← segmentsFrom clip.id geometry framerate .initial (← timed scope clip.zoompan)
  return made.mergeSort fun earlier later => !Scalar.lt later.startAt earlier.startAt

end Zoompan

/-- The rate of frames at which a clip plays: that it is converted to, or that of its
source. -/
def Clip.effectiveFramerate (clip : Clip α) (info : MediaInfo α) : Except NumberFault α :=
  Scalar.toReal ((clip.framerate.map Framerate.fps).getD info.framerate)

/-- The segments of clips by clip id. -/
abbrev PanMap (α : Type) := List (String × List (Segment α))

/-- The rate of frames of every clip. -/
def Template.framerates (template : Template α) (infos : MediaMap α) :
    Result α (List (String × α)) :=
  template.clips.mapM fun clip => do
    return (clip.id, ← clip.effectiveFramerate (← infos.info clip.id))

/-- The segments of every clip that is on the canvas. -/
def Template.pans (template : Template α) (geometry : GeometryMap α)
    (framerates : List (String × α)) : Result α (PanMap α) :=
  template.clips.filterMapM fun clip =>
    match geometry.lookup clip.id, framerates.lookup clip.id with
    | some place, some framerate => do
        return some (clip.id, ← Zoompan.segments template.scope clip place framerate)
    | _, _ => .ok none

end Montage
