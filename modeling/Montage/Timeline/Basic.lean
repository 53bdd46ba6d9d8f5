import Montage.Timeline.Timing

/-!
# The time axis

Every layer is a row of clips and paddings that play one after another.  First all
layers are measured: clips that fit count for nothing, unless all clips fit.  The
output is as long as the longest layer, or as the shortest one if all clips fit.
Then each layer is walked again with a cursor.  A padding moves the cursor so that
the rest of the layer ends with the output, a clip without a length lasts to the end
of the output, and a clip that fits gives up what does not fit in front of the rest
of the layer.
-/

namespace Montage

variable {α : Type} [Scalar α]

/-- One clip as it plays: times of the output, except for the start in the
source. -/
structure Entry (α : Type) where
  clipId : String
  startAt : α
  duration : α
  trimStart : α
  speed : α
  zIndex : Int
deriving DecidableEq

/-- The time at which an entry ends. -/
def Entry.endAt (entry : Entry α) : α :=
  entry.startAt + entry.duration

/-- All entries in the order in which they are stacked, and the length of the
output. -/
structure Timeline (α : Type) where
  entries : List (Entry α)
  total : α

namespace Timeline

/-- The layers of a template with their start times. -/
abbrev Starts (α : Type) := List (α × List Layer)

/-- The start times in seconds. -/
def starts (template : Template α) : Result α (Starts α) :=
  template.timeline.mapM fun (start, layers) => do
    return (← Duration.ofValue template.scope start, layers)

/-- Every layer with its start time, one after another. -/
def layers (starts : Starts α) : List (α × Layer) :=
  starts.flatMap fun (start, layers) => layers.map fun layer => (start, layer)

/-- Whether all clips of a row fit; the row is read up to the first that does
not. -/
def allFit (template : Template α) : List String → Result α Bool
  | [] => .ok true
  | id :: rest =>
      if id == Layer.padding then allFit template rest
      else do
        let clip ← template.clip id
        if clip.isFit then allFit template rest else return false

/-- What a row adds up to behind a position; `total` is what has been added so
far.  `everyFit` tells that all clips of the timeline fit, so that they count. -/
def countedFrom (template : Template α) (infos : MediaMap α) (everyFit : Bool)
    (position total : α) : List String → Result α α
  | [] => .ok total
  | id :: rest =>
      if id == Layer.padding then countedFrom template infos everyFit position total rest
      else do
        let clip ← template.clip id
        let timing ← Timing.ofClip template.scope clip (infos.lookup id) (position + total)
        match timing.duration with
        | none => countedFrom template infos everyFit position total rest
        | some duration =>
            if clip.isFit && !everyFit then
              countedFrom template infos everyFit position total rest
            else countedFrom template infos everyFit position (total + duration) rest

/-- What a row adds up to when it begins at a position. -/
def counted (template : Template α) (infos : MediaMap α) (everyFit : Bool) (position : α)
    (row : List String) : Result α α :=
  countedFrom template infos everyFit position 0 row

/-- The length of the output, which must be positive and finite. -/
def totalOf (everyFit : Bool) (ends : List α) : Result α α :=
  let total : α :=
    match ends with
    | [] => 0
    | first :: rest => if everyFit then Scalar.least first rest else Scalar.greatest first rest
  if Scalar.lt (Scalar.ofInt 0) total && Scalar.isFinite total then .ok total
  else Timing.refuse .noDuration

/-- Where the cursor goes at a padding: forward by what the rest of the row leaves
of the output. -/
def afterPadding (total position counted : α) : α :=
  let pause := total - (position + counted)
  if Scalar.gtApprox pause (Scalar.ofInt 0) then position + pause else position

/-- A clip that fits, shortened so that the rest of the row fits behind it; nothing
if no time is left for it.  A clip with a fitting end loses its end, any other its
beginning. -/
def fitted (total position counted duration : α) (endFits : Bool) (timing : Timing α) :
    Option (α × α) :=
  let excess := position + duration + counted - total
  if Scalar.geApprox excess duration then none
  else if Scalar.gtApprox excess (Scalar.ofInt 0) then
    some (duration - excess,
      if endFits then timing.trimStart else timing.trimStart + excess * timing.speed)
  else some (duration, timing.trimStart)

/-- The length and the start in the source with which a clip plays at a position, in
front of the rest of its row; nothing if it is left out. -/
def played (template : Template α) (infos : MediaMap α) (everyFit : Bool) (total position : α)
    (clip : Clip α) (timing : Timing α) (rest : List String) : Result α (Option (α × α)) :=
  let duration := timing.duration.getD (total - position)
  if timing.duration.isNone && Scalar.leApprox duration (Scalar.ofInt 0) then .ok none
  else if clip.isFit then do
    let counted ← counted template infos everyFit position rest
    return fitted total position counted duration clip.trim.ending.isFit timing
  else .ok (some (duration, timing.trimStart))

/-- The entries of a row that begins at a position. -/
def entriesFrom (template : Template α) (infos : MediaMap α) (everyFit : Bool) (total : α)
    (zIndex : Int) (position : α) : List String → Result α (List (Entry α))
  | [] => .ok []
  | id :: rest =>
      if id == Layer.padding then do
        let counted ← counted template infos everyFit position rest
        entriesFrom template infos everyFit total zIndex
          (afterPadding total position counted) rest
      else do
        let clip ← template.clip id
        let timing ← Timing.ofClip template.scope clip (infos.lookup id) position
        match ← played template infos everyFit total position clip timing rest with
        | none => entriesFrom template infos everyFit total zIndex position rest
        | some (duration, trimStart) => do
            let entry : Entry α :=
              { clipId := id, startAt := position, duration, trimStart
                speed := timing.speed, zIndex }
            return entry :: (← entriesFrom template infos everyFit total zIndex
              (position + duration) rest)

/-- Entries from the bottom of the stack to its top; the order within one level
stays. -/
def stacked (entries : List (Entry α)) : List (Entry α) :=
  entries.mergeSort fun below above => decide (below.zIndex ≤ above.zIndex)

end Timeline

/-- Resolves the timeline of a template. -/
def Template.resolveTimeline (template : Template α) (infos : MediaMap α) :
    Result α (Timeline α) := do
  let layers := Timeline.layers (← Timeline.starts template)
  let everyFit ← Timeline.allFit template (layers.flatMap fun (_, layer) => layer.clips)
  let ends ← layers.mapM fun (start, layer) => do
    return start + (← Timeline.counted template infos everyFit start layer.clips)
  let total ← Timeline.totalOf everyFit ends
  let rows ← layers.mapM fun (start, layer) =>
    Timeline.entriesFrom template infos everyFit total layer.zIndex start layer.clips
  return { entries := Timeline.stacked rows.flatten, total }

end Montage
