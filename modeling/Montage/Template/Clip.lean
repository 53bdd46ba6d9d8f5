import Montage.Value

/-!
# Clips

A clip is one source of the output together with what is done to it: trimmed,
sped up, scaled, turned, cropped, panned and faded.  Fields whose meaning depends
on other parts of the template are kept as values and resolved later; a field
that may be left out is a `Field`, which tells an absent field from one that is
present and null.
-/

namespace Montage

/-- A field that may be absent. -/
abbrev Field (α : Type) := Option (Value α)

namespace Field

variable {α : Type}

/-- The value of a field, null if it is absent. -/
def value (field : Field α) : Value α :=
  field.getD .null

/-- Whether the field has a value other than null. -/
def isGiven (field : Field α) : Bool :=
  !field.value.isNull

/-- Whether the field has the word that fits a trim to the output. -/
def isFit (field : Field α) : Bool :=
  field.value.isText "fit"

/-- The field as an entry of a mapping, if it is present. -/
def entry (name : String) (field : Field α) : List (Value α × Value α) :=
  match field with
  | none => []
  | some value => [(.text name, value)]

end Field

/-- Where a source is cut.  At most one of `ending`, `stop` and `stopAtOutput` has
a value. -/
structure Trim (α : Type) where
  /-- What is cut off in front. -/
  start : Field α
  /-- What is cut off at the end. -/
  ending : Field α
  /-- The time of the source at which it stops. -/
  stop : Field α
  /-- The time of the output at which the source stops. -/
  stopAtOutput : Field α

/-- Where a clip stands on the canvas, and how large. -/
structure Layout (α : Type) where
  x : Field α
  y : Field α
  width : Field α
  height : Field α
  relativeTo : Field α

/-- What is taken off each edge. -/
structure Edges (α : Type) where
  left : Field α
  right : Field α
  top : Field α
  bottom : Field α

/-- How long a clip fades. -/
structure Transition (α : Type) where
  fadeIn : Field α
  fadeOut : Field α

/-- A rate of frames to convert to. -/
structure Framerate (α : Type) where
  fps : α
  smooth : Field α

/-- How a text is drawn. -/
structure Font (α : Type) where
  size : Value α
  color : Value α
  outlineColor : Value α
  outlineSize : Value α
  backgroundRadius : Value α
  padding : Value α
  family : Field α
  lineSpacing : Field α
  backgroundColor : Field α

/-- One target of a pan: shifts along the axes and a zoom, reached at a time. -/
structure Keyframe (α : Type) where
  time : Value α
  x : Value α
  y : Value α
  zoom : Value α

/-- What a clip shows. -/
inductive Source (α : Type) where
  | media (file : String)
  | text (content : String) (font : Font α)
  /-- A text that has been drawn into an image file. -/
  | drawn (file content : String) (font : Font α)

/-- A clip of a template.  Speed and volume are percentages. -/
structure Clip (α : Type) where
  id : String
  source : Source α
  layout : Layout α
  crop : Edges α
  rotate : Option α
  trim : Trim α
  duration : Value α
  speed : Option String
  volume : Option String
  framerate : Option (Framerate α)
  transition : Transition α
  zoompan : List (Keyframe α)

variable {α : Type}

namespace Source

/-- The file of a source, if it has one. -/
def file? : Source α → Option String
  | media file | drawn file _ _ => some file
  | text _ _ => none

/-- The text of a source, if it has one. -/
def text? : Source α → Option String
  | media _ => none
  | text content _ | drawn _ content _ => some content

/-- The font of a source, if it has one. -/
def font? : Source α → Option (Font α)
  | media _ => none
  | text _ font | drawn _ _ font => some font

end Source

namespace Clip

/-- Whether the clip comes from a file. -/
def isMedia (clip : Clip α) : Bool :=
  clip.source.file?.isSome

/-- The word for the kind of a clip. -/
def kind (clip : Clip α) : String :=
  if clip.isMedia then "media" else "text"

/-- Whether the clip is trimmed to fit the output. -/
def isFit (clip : Clip α) : Bool :=
  clip.trim.start.isFit || clip.trim.ending.isFit

/-- A clip of a file, without any other fields. -/
def plain (id file : String) : Clip α where
  id := id
  source := .media file
  layout := ⟨none, none, none, none, none⟩
  crop := ⟨none, none, none, none⟩
  rotate := none
  trim := ⟨none, none, none, none⟩
  duration := .null
  speed := none
  volume := none
  framerate := none
  transition := ⟨none, none⟩
  zoompan := []

end Clip

end Montage
