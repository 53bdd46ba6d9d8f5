import Montage.PathVariable
import Montage.Template.Reading

/-!
# Template files

The content of a template file is a tree of values.  Before it is read as a
template, path variables are replaced in the files of clips and in the families of
fonts, clip by clip.  Relative files are below the directory of the template file.
-/

namespace Montage.Template

variable {α : Type}

/-- Changes the value under a text key, if there is one. -/
def changeAt (key : String) (change : Value α → Result α (Value α)) :
    Value α → Result α (Value α)
  | .map entries => do
      return .map (← entries.mapM fun (name, value) => do
        if name.isText key then return (name, ← change value) else return (name, value))
  | value => .ok value

/-- Replaces the variables of a value that is a text. -/
def expandText (paths : Value α) : Value α → Result α (Value α)
  | .text s => do return .text (← PathVariable.expand paths s)
  | value => .ok value

/-- Replaces the variables of a clip. -/
def expandClip (paths clip : Value α) : Result α (Value α) := do
  let clip ← changeAt "file" (expandText paths) clip
  changeAt "font" (changeAt "family" (expandText paths)) clip

/-- Replaces the variables of all clips.  Whatever is no list of clips is left for
the reader to refuse, unless nothing could be read from it one by one. -/
def expandClips [Scalar α] (paths : Value α) : Value α → Result α (Value α)
  | .list clips => do return .list (← clips.mapM (expandClip paths))
  | .map entries => .ok (.map entries)
  | .text s => .ok (.text s)
  | value => if value.isSet then .error (.kind .unsupported) else .ok value

/-- The variables of a template; what is not set has none. -/
def pathVariables [Scalar α] (content : Value α) : Value α :=
  let paths := content.get "paths"
  if paths.isSet then paths else .map []

/-- Reads the content of a template file. -/
def load [Scalar α] (file : Path) (content : Value α) : Result α (Template α) :=
  match content with
  | .map _ => do
      let content ← changeAt "clips" (expandClips (pathVariables content)) content
      read file.resolve.parent content
  | _ => Result.refuse (.notTemplate file.toText)

/-- The media files of a template that `present` denies, in the order of clips. -/
def missingMedia (present : String → Bool) (template : Template α) : List String :=
  (template.clips.filterMap fun clip => clip.source.file?).filter fun file => !present file

/-- Refuses a template of which media files are missing, all of them at once. -/
def checkMedia (present : String → Bool) (template : Template α) : Result α Unit :=
  match missingMedia present template with
  | [] => .ok ()
  | missing => .error (.missingMedia missing)

end Montage.Template
