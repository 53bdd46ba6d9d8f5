import Montage.Fault.Basic
import Montage.Path
import Montage.Template.Clip

/-!
# Templates

A template lists clips, the size of the canvas, and layers of clips by start
time.  Its clips have distinct ids.  Durations in it may refer to keypoints and to
fields of clips, which together are its `Scope`.
-/

namespace Montage

/-- The size of the canvas; shares are of the clip `relativeTo`. -/
structure SizeSpec (α : Type) where
  width : Value α
  height : Value α
  relativeTo : Option String
  backgroundColor : String

/-- Clips and paddings that play one after another. -/
structure Layer where
  clips : List String
  zIndex : Int
deriving DecidableEq, Repr

namespace Layer

/-- The word in a layer that stands for a pause up to the clips behind it. -/
def padding : String := "PAD"

end Layer

/-- What a duration may refer to. -/
structure Scope (α : Type) where
  keypoints : List (Value α × Value α)
  clips : List (Clip α)

/-- A valid template. -/
structure Template (α : Type) where
  clips : List (Clip α)
  size : SizeSpec α
  timeline : List (Value α × List Layer)
  preview : Value α
  keypoints : List (Value α × Value α)
  directory : Path

variable {α : Type}

/-- The clip with an id. -/
def clip? (id : String) (clips : List (Clip α)) : Option (Clip α) :=
  clips.find? fun clip => clip.id == id

/-- What has been found under a clip id, which is at fault if that is nothing. -/
def Result.ofClip {β : Type} (id : String) : Option β → Result α β
  | some found => .ok found
  | none => .error (.input (.unknownClip id))

namespace Scope

/-- Nothing to refer to. -/
def empty : Scope α := ⟨[], []⟩

end Scope

namespace Template

/-- What the durations of a template may refer to. -/
def scope (template : Template α) : Scope α :=
  ⟨template.keypoints, template.clips⟩

/-- The clip with an id, which must exist. -/
def clip (template : Template α) (id : String) : Result α (Clip α) :=
  Result.ofClip id (clip? id template.clips)

end Template

end Montage
