import Montage.Value

/-!
# Faults of plans

What goes wrong when a valid template is resolved against its sources: on the
canvas, on the time axis, and along a pan.
-/

namespace Montage

/-- Why a clip has no place on the canvas. -/
inductive GeometryFault (α : Type) where
  | sizeWithoutReference
  | audioSizeReference (clip : String)
  | emptyBackground (width height : Int)
  /-- The clip measured against is not one before this clip. -/
  | layoutReference (clip : String) (value : Value α)
  | negativeScale (clip : String) (width height : Int)
  | cropOutside (clip axis side : String) (offset extent limit : Int)
  | unknownPositionFields (clip axis fields : String)
  | alignment (clip axis : String) (value : Value α) (valid : String)

/-- The message of a geometry fault. -/
def GeometryFault.message {α : Type} [Scalar α] : GeometryFault α → String
  | sizeWithoutReference => "size must be specified using pixel units"
  | audioSizeReference clip =>
      s!"size.relative_to: Clip {clip} is an audio file and has no size"
  | emptyBackground width height => s!"Background size must be positive, got {width}x{height}"
  | layoutReference clip value =>
      s!"Clip {clip}: layout.relative_to '{value.toText}' must name a " ++
        "clip listed earlier in the template"
  | negativeScale clip width height => s!"Clip {clip}: scaled size {width}x{height} is negative"
  | cropOutside clip axis side offset extent limit =>
      s!"Clip {clip}: crop {axis} {offset} + {side} {extent} must fit within " ++
        s!"0 and the scaled {side} {limit}"
  | unknownPositionFields clip axis fields =>
      s!"Clip {clip}: layout.{axis} unknown field(s) {fields}"
  | alignment clip axis value valid =>
      s!"Clip {clip}: invalid layout.{axis} align '{value.toText}'. Valid: {valid}"

/-- Why a clip has no place on the time axis. -/
inductive TimelineFault (α : Type) where
  | overTrimmed (clip : String) (missing : α)
  | tooLong (clip : String) (duration available : α)
  | noDuration

/-- The message of a timeline fault. -/
def TimelineFault.message {α : Type} [Scalar α] : TimelineFault α → String
  | overTrimmed clip missing =>
      s!"Clip {clip} was trimmed {Scalar.text missing} seconds more than its total duration"
  | tooLong clip duration available =>
      s!"Clip {clip}: duration {Scalar.text duration} is longer than the " ++
        s!"{Scalar.text available} seconds left after trimming"
  | noDuration =>
      "Output duration cannot be zero. If all clips are text or image clips, " ++
        "at least one must specify a duration."

/-- Why keyframes give no pan. -/
inductive ZoompanFault (α : Type) where
  | negativeKeyframe (clip : String) (keyframe : Value α)
  | panWithoutCrop (clip : String)
  | panOutside (clip axis : String) (keyframe : Value α) (bound : Int) (destination : α)
  | zoom (clip : String) (zoom : Value α)

/-- The message of a zoompan fault. -/
def ZoompanFault.message {α : Type} [Scalar α] : ZoompanFault α → String
  | negativeKeyframe clip keyframe =>
      s!"Clip {clip}: zoompan keyframe {keyframe.toText} is negative"
  | panWithoutCrop clip =>
      s!"Clip {clip}: zoompan panning cannot be used without cropping the clip"
  | panOutside clip axis keyframe bound destination =>
      s!"Clip {clip}: zoompan {axis} pan at {keyframe.toText} must be between " ++
        s!"0 and {bound}, got {Scalar.text destination}"
  | zoom clip value => s!"Clip {clip}: zoompan zoom must be positive, got {value.toText}"

end Montage
