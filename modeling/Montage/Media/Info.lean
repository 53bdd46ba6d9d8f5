import Montage.Fault.Basic
import Montage.Template.Basic

/-!
# What is known about sources

Probing a source gives its natural size, its rate of frames, its length and
whether it sounds.  A still image has no length, and a source without a height has
no aspect ratio.
-/

namespace Montage

/-- What a probe found out about a source. -/
structure MediaInfo (α : Type) where
  /-- The width as its reader gives it, which need not be whole. -/
  width : α
  height : α
  framerate : α
  /-- Nothing for still images. -/
  duration : Option α
  /-- Width over height, where that is a number. -/
  aspectRatio : Option α
  hasAudio : Bool
  kind : SourceKind

namespace MediaInfo

variable {α : Type} [Scalar α]

/-- The aspect ratio of a size. -/
def aspectOf (width height : α) : Except NumberFault (Option α) :=
  if Scalar.isSet height then do return Scalar.number? (← Scalar.checked (width / height))
  else .ok none

/-- The rate at which still images are shown. -/
def imageFramerate : α := Scalar.ofInt 60

/-- A still image of the given size. -/
def image (width height : α) : Except NumberFault (MediaInfo α) := do
  return {
    width, height
    framerate := imageFramerate
    duration := none
    aspectRatio := ← aspectOf width height
    hasAudio := false
    kind := .image }

end MediaInfo

/-- What is known about the sources of clips, by clip id. -/
abbrev MediaMap (α : Type) := List (String × MediaInfo α)

namespace MediaMap

/-- What is known about the source of a clip, which must have been probed. -/
def info {α : Type} (infos : MediaMap α) (id : String) : Result α (MediaInfo α) :=
  Result.ofClip id (infos.lookup id)

end MediaMap

end Montage
