import Montage.Geometry.Placement
import Montage.Timeline.Basic
import Montage.Zoompan.Keyframes

/-!
# Plans

A plan is a template resolved against its sources: every number that the encoder
needs, and nothing that would have to be computed again.  Clips stand in the order
in which they are painted.  Whole videos and single frames are made from the same
plan.
-/

namespace Montage

variable {α : Type}

/-- One clip of a plan. -/
structure PlannedClip (α : Type) where
  clipId : String
  /-- Nothing for a text that has not been drawn. -/
  file : Option String
  kind : SourceKind
  startAt : α
  duration : α
  trimStart : α
  speed : α
  zIndex : Int
  framerate : α
  hasAudio : Bool
  geometry : Option (Geometry α)
  zoompan : List (Segment α)
  /-- Whether the rate of frames is converted. -/
  retime : Bool
  smooth : Bool
  volume : α
  fadeIn : α
  fadeOut : α

/-- A template resolved. -/
structure Plan (α : Type) where
  background : Extent
  backgroundColor : String
  total : α
  preview : α
  clips : List (PlannedClip α)

namespace Plan

variable [Scalar α]

/-- The seconds of a fade; one that is not set takes no time. -/
def fade (scope : Scope α) (field : Field α) : Result α α :=
  if field.value.isSet then Duration.ofValue scope field.value else .ok 0

/-- What is known about all clips when entries become clips of a plan. -/
structure Parts (α : Type) where
  template : Template α
  infos : MediaMap α
  geometry : GeometryMap α
  framerates : List (String × α)
  pans : PanMap α

/-- One clip of a plan. -/
def ofEntry (parts : Parts α) (entry : Entry α) : Result α (PlannedClip α) := do
  let clip ← parts.template.clip entry.clipId
  let info ← parts.infos.info entry.clipId
  let framerate ← Result.ofClip clip.id (parts.framerates.lookup clip.id)
  let volume ← Timing.factor clip.volume
  let fadeIn ← fade parts.template.scope clip.transition.fadeIn
  let fadeOut ← fade parts.template.scope clip.transition.fadeOut
  return {
    clipId := entry.clipId
    file := clip.source.file?
    kind := info.kind
    startAt := entry.startAt
    duration := entry.duration
    trimStart := entry.trimStart
    speed := entry.speed
    zIndex := entry.zIndex
    framerate
    hasAudio := info.hasAudio
    geometry := parts.geometry.lookup clip.id
    zoompan := (parts.pans.lookup clip.id).getD []
    retime := clip.framerate.isSome
    smooth := (clip.framerate.map fun framerate => framerate.smooth.value.isSet).getD false
    volume, fadeIn, fadeOut }

/-- Compiles a template whose texts have been drawn, on a canvas of known size. -/
def compileOn [Analytic α] (canvas : Extent) (template : Template α) (infos : MediaMap α) :
    Result α (Plan α) := do
  let geometry ← template.geometry canvas infos
  let timeline ← template.resolveTimeline infos
  let framerates ← template.framerates infos
  let pans ← template.pans geometry framerates
  let clips ← timeline.entries.mapM (ofEntry { template, infos, geometry, framerates, pans })
  let preview ← Duration.ofValue template.scope template.preview
  return {
    background := canvas
    backgroundColor := template.size.backgroundColor
    total := timeline.total
    preview, clips }

/-- Compiles a template; the canvas has the size that the template asks for unless
one is given. -/
def compile [Analytic α] (template : Template α) (infos : MediaMap α)
    (canvas : Option Extent) : Result α (Plan α) := do
  match canvas with
  | some canvas => compileOn canvas template infos
  | none => compileOn (← Canvas.size template infos) template infos

end Plan

end Montage
