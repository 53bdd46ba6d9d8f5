import Montage.Command.Graph
import Montage.Plan.Basic

/-!
# Commands

A plan becomes one command of the encoder.  Every clip that is shown is an input,
in the order of the plan.  The picture of each is prepared by a chain of its own and
laid on everything below it, beginning with the empty canvas; sounds are prepared
likewise and mixed if there is more than one.  A preview takes only the clips that
are seen at one instant, has no sound, and asks each input for that instant.
-/

namespace Montage

variable {α : Type}

/-- What is made of a plan. -/
inductive RenderMode (α : Type) where
  /-- The whole output. -/
  | video
  /-- One frame, at the instant of the plan unless one is given. -/
  | preview (instant : Option α)
  /-- Something for which there is no command. -/
  | unknown

/-- Whether one frame is made. -/
def RenderMode.isPreview : RenderMode α → Bool
  | preview _ => true
  | video | unknown => false

/-- A word of a command; the name of a file that does not exist yet has none. -/
abbrev Word := Option String

/-- What the encoder makes of a plan. -/
structure Command (α : Type) where
  /-- The words that open each input. -/
  inputs : List (List Word)
  graph : Graph α
  /-- Words on how the output is written. -/
  format : List String

namespace Command

variable [Scalar α]

/-! ## Pictures -/

/-- The coordinate of the window along an axis: over all frames, or at one time of the
clip. -/
def windowPosition (clip : PlannedClip α) (time : Option α) (window : Window) (axis : Axis) :
    Result α (PanExpression α) :=
  match time with
  | none =>
      (PanExpression.ofPan clip.zoompan axis clip.framerate (window.offset axis)).toReal
  | some time => do
      let offset ← panOffset clip.zoompan axis time clip.framerate
        (Scalar.ofInt (window.offset axis))
      return .held (← Scalar.toReal (Scalar.ofInt (← Scalar.floor offset)))

/-- The filters that cut the window of a clip. -/
def cropFilters (clip : PlannedClip α) (instant : Option α) (geometry : Geometry α) :
    Result α (List (Filter α)) :=
  match geometry.crop with
  | none => .ok []
  | some window => do
      let time ← instant.mapM fun instant => Scalar.checked (instant - clip.startAt)
      let x ← windowPosition clip time window .horizontal
      let y ← windowPosition clip time window .vertical
      return [.crop window.size x y]

/-- The filters that turn a clip. -/
def turnFilters (geometry : Geometry α) : Result α (List (Filter α)) :=
  match geometry.rotate with
  | none => .ok []
  | some rotation => do
      return [.rotate { rotation with degrees := ← Scalar.toReal rotation.degrees }]

/-- The filters that bring a picture to its size. -/
def geometryFilters (clip : PlannedClip α) (instant : Option α) (geometry : Geometry α) :
    Result α (List (Filter α)) := do
  let turn ← turnFilters geometry
  let crop ← cropFilters clip instant geometry
  return .scale geometry.scale :: turn ++ crop

/-- Filters that are there on a condition. -/
def onlyIf (condition : Bool) (filters : Result α (List (Filter α))) :
    Result α (List (Filter α)) :=
  if condition then filters else .ok []

/-- The filters of a picture in the whole output. -/
def videoFilters (clip : PlannedClip α) (geometry : Geometry α) : Result α (List (Filter α)) := do
  let fadesIn := Scalar.isSet clip.fadeIn
  let fadesOut := Scalar.isSet clip.fadeOut
  let stretch ← Scalar.divide (Scalar.ofInt 1) clip.speed
  let startAt ← Scalar.toReal clip.startAt
  let conversion ← onlyIf clip.retime do
    return [.framerate (← Scalar.toReal clip.framerate) clip.smooth]
  let shape ← geometryFilters clip none geometry
  let fadeIn ← onlyIf fadesIn do return [.fadeIn startAt (← Scalar.toReal clip.fadeIn)]
  let fadeOut ← onlyIf fadesOut do
    let fadeStart ← Scalar.toReal (clip.startAt + clip.duration - clip.fadeOut)
    return [.fadeOut fadeStart (← Scalar.toReal clip.fadeOut)]
  return .retime stretch startAt :: conversion ++
    (if fadesIn || fadesOut then [.transparency] else []) ++ shape ++ fadeIn ++ fadeOut

/-- The filters of a picture at an instant, or in the whole output. -/
def pictureFilters (clip : PlannedClip α) (instant : Option α) (geometry : Geometry α) :
    Result α (List (Filter α)) :=
  match instant with
  | none => videoFilters clip geometry
  | some instant => do return .restart :: (← geometryFilters clip (some instant) geometry)

/-! ## Inputs -/

/-- The text of a number as a word. -/
def numeral (x : α) : Except NumberFault String := do
  return Scalar.compact (← Scalar.toReal x)

/-- The words that open the source of a clip. -/
def inputWords (clip : PlannedClip α) (instant : Option α) : Except NumberFault (List Word) :=
  let source : List Word := [some "-i", clip.file]
  match clip.kind, instant with
  | .image, some _ => .ok source
  | .image, none => do
      return [some "-loop", some "1", some "-framerate", ← numeral clip.framerate,
        some "-t", ← numeral clip.duration] ++ source
  | _, some instant => do
      let seek := clip.trimStart + (instant - clip.startAt) * clip.speed
      return [some "-ss", ← numeral seek] ++ source
  | _, none => do
      return [some "-ss", ← numeral clip.trimStart,
        some "-t", ← numeral (clip.duration * clip.speed)] ++ source

/-! ## Stack and mix -/

/-- The chain of the empty canvas. -/
def canvasChain (plan : Plan α) (duration : Option α) : Result α (Chain α) := do
  let color ← Color.ofText plan.backgroundColor
  let duration ← duration.mapM fun duration => Scalar.toReal duration
  return ⟨[], [.canvas color plan.background duration], .base⟩

/-- The chains that stack the pictures of the inputs from one on, and the link of
the whole stack; `below` is the link of what they are laid on. -/
def stack (below : Link) (input : Nat) : List (PlannedClip α) → List (Chain α) × Link
  | [] => ([], below)
  | clip :: rest =>
      match clip.geometry with
      | none => stack below (input + 1) rest
      | some geometry =>
          let (chains, top) := stack (.stack input) (input + 1) rest
          (⟨[.link below, .link (.picture input)], [.overlay geometry.x geometry.y],
            .stack input⟩ :: chains, top)

/-- The links of the sounds of the inputs from one on. -/
def soundLinks (input : Nat) : List (PlannedClip α) → List Link
  | [] => []
  | clip :: rest =>
      if clip.hasAudio then .sound input :: soundLinks (input + 1) rest
      else soundLinks (input + 1) rest

/-- The chain that mixes sounds, if there is more than one, and the link of what is
heard, if anything is. -/
def mixture (links : List Link) : List (Chain α) × Option Link :=
  match links with
  | [] => ([], none)
  | [link] => ([], some link)
  | links => ([⟨links.map .link, [.mix links.length], .mixed⟩], some .mixed)

/-- Whether a clip is seen at an instant. -/
def isSeenAt (instant : α) (clip : PlannedClip α) : Except NumberFault Bool :=
  if clip.geometry.isSome && Scalar.le clip.startAt instant then do
    return Scalar.le instant (← Scalar.checked (clip.startAt + clip.duration))
  else .ok false

/-- The rate of frames of the output: the greatest of all pictures. -/
def outputFramerate (clips : List (PlannedClip α)) : α :=
  match (clips.filter fun clip => clip.geometry.isSome).map PlannedClip.framerate with
  | [] => Scalar.ofInt 60
  | first :: rest => Scalar.greatest first rest

/-- All words of a command that writes to a file. -/
def words (command : Command α) (encoder loglevel output : String) : List Word :=
  let maps := command.graph.picture :: command.graph.sound.toList
  [some encoder, some "-y", some "-loglevel", some loglevel] ++ command.inputs.flatten ++
    [some "-filter_complex", some command.graph.text] ++
    (maps.flatMap fun link => [some "-map", some link.label]) ++
    (command.format ++ [output]).map some

/-! ## Chains -/

variable [Analytic α]

/-- The filters of a sound. -/
def soundFilters (clip : PlannedClip α) : Result α (List (Filter α)) := do
  let volume ← Scalar.toReal clip.volume
  let tempo ← Tempo.factors clip.speed
  let fadeIn ← onlyIf (Scalar.isSet clip.fadeIn) do
    return [.fadeSoundIn (← Scalar.toReal clip.fadeIn)]
  let fadeOut ← onlyIf (Scalar.isSet clip.fadeOut) do
    let fadeStart ← Scalar.toReal (clip.duration - clip.fadeOut)
    return [.fadeSoundOut fadeStart (← Scalar.toReal clip.fadeOut)]
  let delay ← Scalar.round (clip.startAt * Scalar.ofInt 1000)
  return .restartSound :: .volume volume :: tempo.map Filter.tempo ++ fadeIn ++ fadeOut ++
    [.delay delay]

/-- The chain that prepares the picture of an input. -/
def pictureChain (input : Nat) (clip : PlannedClip α) (instant : Option α)
    (geometry : Geometry α) : Result α (Chain α) := do
  let filters ← pictureFilters clip instant geometry
  return ⟨[.inputPicture input], filters, .picture input⟩

/-- The chain that prepares the sound of an input. -/
def soundChain (input : Nat) (clip : PlannedClip α) : Result α (Chain α) := do
  return ⟨[.inputSound input], ← soundFilters clip, .sound input⟩

/-- The chains that prepare one input. -/
def preparation (instant : Option α) (input : Nat) (clip : PlannedClip α) :
    Result α (List (Chain α)) := do
  let picture ←
    match clip.geometry with
    | some geometry => do pure [← pictureChain input clip instant geometry]
    | none => pure []
  let sound ←
    if instant.isNone && clip.hasAudio then do pure [← soundChain input clip] else pure []
  return picture ++ sound

/-- An input of a command: the words that open it and the chains that prepare it. -/
structure Input (α : Type) where
  words : List Word
  chains : List (Chain α)

/-- The inputs from one on. -/
def inputsFrom (instant : Option α) (input : Nat) :
    List (PlannedClip α) → Result α (List (Input α))
  | [] => .ok []
  | clip :: rest => do
      let words ← inputWords clip instant
      let chains ← preparation instant input clip
      return ⟨words, chains⟩ :: (← inputsFrom instant (input + 1) rest)

/-! ## The two kinds of command -/

/-- The instant of a preview must be in the output. -/
def checkInstant (plan : Plan α) (instant : α) : Result α Unit := do
  let refused : Result α Unit := .error (.input (.previewOutside instant plan.total))
  if Scalar.lt instant (Scalar.ofInt 0) then refused
  Scalar.comparable instant plan.total
  if !Scalar.leApprox instant plan.total then refused

/-- The command for one frame. -/
def preview (plan : Plan α) (instant : α) : Result α (Command α) := do
  checkInstant plan instant
  let clips ← plan.clips.filterM fun clip => isSeenAt instant clip
  let canvas ← canvasChain plan none
  let inputs ← inputsFrom (some instant) 0 clips
  let (stacked, top) := stack .base 0 clips
  return {
    inputs := inputs.map Input.words
    graph := ⟨canvas :: inputs.flatMap Input.chains ++ stacked, top, none⟩
    format := ["-vframes", "1"] }

/-- The command for the whole output. -/
def video (plan : Plan α) (codec : String) : Result α (Command α) := do
  let canvas ← canvasChain plan (some plan.total)
  let inputs ← inputsFrom none 0 plan.clips
  let (stacked, top) := stack .base 0 plan.clips
  let (mixing, sound) := mixture (soundLinks 0 plan.clips)
  let framerate ← numeral (outputFramerate plan.clips)
  let total ← numeral plan.total
  return {
    inputs := inputs.map Input.words
    graph := ⟨canvas :: inputs.flatMap Input.chains ++ stacked ++ mixing, top, sound⟩
    format :=
      ["-r", framerate, "-t", total, "-c:v", codec, "-pix_fmt", "yuv420p"] ++
      (if sound.isSome then ["-c:a", "aac"] else []) }

/-- The command for a mode. -/
def ofPlan (plan : Plan α) (mode : RenderMode α) (codec : String) : Result α (Command α) :=
  match mode with
  | .video => video plan codec
  | .preview instant => preview plan (instant.getD plan.preview)
  | .unknown => .error (.kind .unsupported)

end Command

namespace Word

/-- A word as text. -/
def text (word : Word) : String :=
  word.getD "None"

end Word

end Montage
