import Montage.Value

/-!
# Faults of templates

What validation finds wrong with a template.  `owner` is the part of the template
at fault as messages name it, such as `Clip title` or `timeline 0 layer 2`.
-/

namespace Montage

/-- Why a tree of values is no template. -/
inductive TemplateFault (α : Type) where
  | notMapping (owner : String)
  | notTemplate (path : String)
  | unknownFields (owner fields valid : String)
  | noClips
  | duplicateClip (id : String)
  | keypoints
  | exclusiveTrims (clip fields : String)
  | fitStop (clip field : String)
  | fileOrText (owner : String)
  | stopAndDuration (owner : String)
  | rotate (owner : String) (value : Value α)
  | speed (owner : String) (value : Value α)
  | notPercentage (owner field : String)
  | framerate (owner : String) (value : Value α)
  | zoompan (owner : String)
  | keyframeMissing (owner : String) (index : Nat)
  | sizeReference (value : Value α)
  | textSizeReference
  | sizeWithoutMedia
  | timeline
  | notLayers (owner : String)
  | notClipIds (owner : String)
  | zIndex (owner : String) (value : Value α)

/-- The message of a template fault. -/
def TemplateFault.message {α : Type} [Scalar α] : TemplateFault α → String
  | notMapping owner => s!"{owner}: must be a mapping"
  | notTemplate path => s!"{path}: template must be a mapping"
  | unknownFields owner fields valid => s!"{owner}: unknown field(s) {fields}. Valid: {valid}"
  | noClips => "template \"clips\" must have at least one clip present."
  | duplicateClip id => s!"Clip id {id} is defined more than once."
  | keypoints => "'keypoints' must be a mapping of name -> timestamp"
  | exclusiveTrims clip fields =>
      s!"Clip {clip}: trim 'end', 'stop', and 'stop_at_output' are mutually exclusive, got {fields}"
  | fitStop clip field => s!"Clip {clip}: trim.{field} cannot be 'fit'"
  | fileOrText owner => s!"{owner}: exactly one of 'file' or 'text' is required"
  | stopAndDuration owner => s!"{owner}: cannot provide both trim.stop and duration"
  | rotate owner value => s!"{owner}: rotate must be a number of degrees, got {value.literal}"
  | speed owner value => s!"{owner}: speed must be greater than 0%, got {value.literal}"
  | notPercentage owner field => s!"{owner}: {field} must be a percentage"
  | framerate owner value =>
      s!"{owner}: framerate.fps must be a positive number, got {value.literal}"
  | zoompan owner => s!"{owner}: zoompan must be a list or a mapping"
  | keyframeMissing owner index => s!"{owner}: zoompan {index} missing 'keyframe'"
  | sizeReference value => s!"size.relative_to: Clip {value.toText} does not exist."
  | textSizeReference => "Cannot specify a text clip as a relative size source"
  | sizeWithoutMedia =>
      "If all clips are text clips, a size must be specified using pixel units."
  | timeline => "'timeline' must be a non-empty mapping of timestamp -> layers"
  | notLayers owner => s!"{owner}: must be a list of layers"
  | notClipIds owner => s!"{owner}: must be a list of clip ids"
  | zIndex owner value => s!"{owner}: z_index must be an integer, got {value.literal}"

end Montage
