import Montage.Proofs.Command.Tempo
import Montage.Proofs.Command.Wiring
import Montage.Proofs.Division.Resolving
import Montage.Proofs.Plan
import Montage.Proofs.Timeline.Layers
import Montage.Proofs.Timeline.Timing
import Montage.Proofs.Zoompan.Containment

/-!
# Divisors are not zero

From a template that is accepted, up to its commands, nothing is divided by zero.  The
speed of a clip has been checked as a share and is read as one again.  Every source with
a picture has a positive size, and so a positive aspect ratio.  The frames of a segment
may be none; then its formula is made without a division.
-/

namespace Montage

open Result

namespace Command

/-! ## Commands -/

@[simp]
theorem avoids_toReal (expression : PanExpression ℚ) :
    Avoids .divisionByZero expression.toReal := by
  induction expression with
  | before frame first second firstIh secondIh =>
      simp [PanExpression.toReal, firstIh, secondIh]
  | _ => simp [PanExpression.toReal]

@[simp]
theorem avoids_panOffset (segments : List (Segment ℚ)) (axis : Axis) (time framerate base : ℚ) :
    Avoids .divisionByZero (panOffset segments axis time framerate base) := by
  unfold panOffset
  split
  · simp
  · split
    · simp
    · split
      · simp
      · split <;> simp

@[simp]
theorem avoids_windowPosition (clip : PlannedClip ℚ) (time : Option ℚ) (window : Window)
    (axis : Axis) : NoZeroDivision (windowPosition clip time window axis) := by
  cases time <;> simp [windowPosition]

@[simp]
theorem avoids_geometryFilters (clip : PlannedClip ℚ) (instant : Option ℚ)
    (geometry : Geometry ℚ) : NoZeroDivision (geometryFilters clip instant geometry) := by
  have turn : NoZeroDivision (turnFilters geometry) := by
    unfold turnFilters
    split <;> simp
  have crop : NoZeroDivision (cropFilters clip instant geometry) := by
    unfold cropFilters
    split
    · simp
    · simp [avoids_option_mapM]
  simp [geometryFilters, turn, crop]

/-- The pictures of a video are stretched by one over the speed. -/
theorem avoids_pictureFilters {clip : PlannedClip ℚ} (moves : clip.speed ≠ 0)
    (instant : Option ℚ) (geometry : Geometry ℚ) :
    NoZeroDivision (pictureFilters clip instant geometry) := by
  cases instant <;> simp [pictureFilters, videoFilters, onlyIf, moves]

@[simp]
theorem avoids_numeral (x : ℚ) : Avoids .divisionByZero (numeral x) := by
  simp [numeral]

@[simp]
theorem avoids_inputWords (clip : PlannedClip ℚ) (instant : Option ℚ) :
    Avoids .divisionByZero (inputWords clip instant) := by
  unfold inputWords
  split <;> simp

@[simp]
theorem avoids_ofHex (text : String) : Avoids .divisionByZero (Color.ofHex text) := by
  have channel (pair : List Char) : Avoids .divisionByZero (Color.channel pair) := by
    unfold Color.channel
    split <;> simp
  simp [Color.ofHex, channel]

@[simp]
theorem avoids_canvasChain (plan : Plan ℚ) (duration : Option ℚ) :
    NoZeroDivision (canvasChain plan duration) := by
  have color : NoZeroDivision (Color.ofText plan.backgroundColor) := by
    unfold Color.ofText
    split <;> simp
  simp [canvasChain, color, avoids_option_mapM]

variable [Analytic ℚ]

@[simp]
theorem avoids_factors (speed : ℚ) : Avoids .divisionByZero (Tempo.factors speed) := by
  simp only [Tempo.factors, Scalar.toReal_rat, ok_bind, avoids_ite_iff, avoids_ok, implies_true,
    true_and]
  refine fun _ => ⟨fun _ => ?_, fun _ => by simp⟩
  split <;> simp

@[simp]
theorem avoids_soundFilters (clip : PlannedClip ℚ) : NoZeroDivision (soundFilters clip) := by
  simp [soundFilters, onlyIf, Scalar.round]

theorem avoids_preparation {clip : PlannedClip ℚ} (moves : clip.speed ≠ 0) (instant : Option ℚ)
    (input : ℕ) : NoZeroDivision (preparation instant input clip) := by
  cases shown : clip.geometry <;>
    simp [preparation, soundChain, pictureChain, shown, avoids_pictureFilters moves]

theorem avoids_inputsFrom {clips : List (PlannedClip ℚ)} (moves : ∀ clip ∈ clips, clip.speed ≠ 0)
    (instant : Option ℚ) (input : ℕ) : NoZeroDivision (inputsFrom instant input clips) := by
  induction clips generalizing input with
  | nil => exact avoids_ok _
  | cons clip rest ih =>
      rw [List.forall_mem_cons] at moves
      simp [inputsFrom, avoids_preparation moves.1, ih moves.2]

theorem avoids_preview {plan : Plan ℚ} (moves : ∀ clip ∈ plan.clips, clip.speed ≠ 0)
    (instant : ℚ) : NoZeroDivision (preview plan instant) := by
  have checked : NoZeroDivision (checkInstant plan instant) := by
    simp [checkInstant, Scalar.comparable]
  have seen : NoZeroDivision (plan.clips.filterM fun clip => liftM (isSeenAt instant clip)) :=
    avoids_filterM fun clip _ => by simp [isSeenAt]
  simp only [preview, avoids_bind_iff, checked, seen, avoids_canvasChain, avoids_pure, true_and,
    implies_true, and_true]
  intro _ _ clips filtered _ _
  cases eq_filter_isSeen filtered
  exact avoids_inputsFrom (fun clip member => moves clip (List.mem_of_mem_filter member)) _ _

/-- The command of a plan whose clips have speeds is made without a division by zero. -/
theorem avoids_ofPlan {plan : Plan ℚ} (moves : ∀ clip ∈ plan.clips, clip.speed ≠ 0)
    (mode : RenderMode ℚ) (codec : String) : NoZeroDivision (ofPlan plan mode codec) := by
  cases mode with
  | video => simp [ofPlan, video, avoids_inputsFrom moves]
  | preview instant => exact avoids_preview moves _
  | unknown => simp [ofPlan]

end Command

/-! ## What is known of the divisors -/

/-- The clips of a template that is read have speeds. -/
theorem Template.moves_of_read {directory : Path} {value : Value ℚ} {template : Template ℚ}
    (accepted : Template.read directory value = .ok template) : template.Moves :=
  fun _ member _ resolved => (speed_pos accepted member resolved).ne'

/-- Every source with a picture has a positive size, and its aspect ratio is that of the
size. -/
def MediaMap.IsMeasured (infos : MediaMap ℚ) : Prop :=
  ∀ id info, infos.lookup id = some info → info.kind ≠ .audio →
    0 < info.width ∧ 0 < info.height ∧ info.aspectRatio = some (info.width / info.height)

theorem MediaMap.IsMeasured.hasAspects {infos : MediaMap ℚ} (measured : infos.IsMeasured) :
    infos.HasAspects := by
  intro id info listed pictured ratio found
  obtain ⟨width, height, ratio_eq⟩ := measured id info listed pictured
  cases found.symm.trans ratio_eq
  exact (div_pos width height).ne'

/-- The clips of a plan play at the speeds that have been checked. -/
theorem Plan.speed_pos_of_compile [Analytic ℚ] {directory : Path} {value : Value ℚ}
    {template : Template ℚ} {infos : MediaMap ℚ} {canvas : Option Extent} {plan : Plan ℚ}
    (accepted : Template.read directory value = .ok template)
    (compiled : Plan.compile template infos canvas = .ok plan) {planned : PlannedClip ℚ}
    (member : planned ∈ plan.clips) : 0 < planned.speed := by
  obtain ⟨timeline, resolved, entries_eq⟩ := exists_timeline_of_compile compiled
  obtain ⟨resolution⟩ := Timeline.exists_resolution resolved
  have inTimeline : planned.entry ∈ timeline.entries := by
    rw [← entries_eq]
    exact List.mem_map_of_mem member
  obtain ⟨clip, timing, _, found, timed, _, speed_eq⟩ := resolution.exists_played_of_mem inTimeline
  obtain ⟨_, _, _, _, _, factorFound, _⟩ := Timing.ofClip_cases timed
  have positive := Template.speed_pos accepted (Template.mem_clips_of_clip found) factorFound
  rwa [← speed_eq] at positive

/-- A chain of tempo filters has at least one filter. -/
theorem Tempo.shortest?_pos {speed : ℚ} {test : ℕ → Bool} {count : ℕ}
    (found : Tempo.shortest? speed test = some count) : 0 < count :=
  (Tempo.firstFrom?_eq_some_iff.mp found).1.1.1

namespace Zoompan

/-- During a segment of a chain the window rests, or it moves between the times of the
segment. -/
theorem Chain.motion_of_mem {axis : Axis} {framerate room time position : ℚ}
    {segments : List (Segment ℚ)} (chain : Chain axis framerate room time position segments)
    {segment : Segment ℚ} (member : segment ∈ segments) :
    (∃ start, segment.along axis = .resting start) ∨
      ∃ start destination, segment.along axis =
        .moving segment.startAt segment.endAt framerate start destination := by
  induction chain with
  | nil => contradiction
  | resting _ _ motion _ ih =>
      rcases List.mem_cons.mp member with rfl | member
      · exact .inl ⟨_, motion⟩
      · exact ih member
  | moving begins _ motion _ _ _ ih =>
      rcases List.mem_cons.mp member with rfl | member
      · rw [← begins] at motion
        exact .inr ⟨_, _, motion⟩
      · exact ih member

/-- A formula has as its step a quotient by the count of frames, unless there are none;
then it stays at the destination. -/
theorem between_cases (startAt endAt framerate start destination : ℚ) :
    ((endAt - startAt) * framerate = 0 ∧ ∀ frame,
      (LinearFormula.between startAt endAt framerate start destination).evaluate frame =
        destination) ∨
    Scalar.divide (destination - start) ((endAt - startAt) * framerate) =
      .ok (LinearFormula.between startAt endAt framerate start destination).step := by
  by_cases none : (endAt - startAt) * framerate = 0
  · refine .inl ⟨none, fun frame => ?_⟩
    simp [LinearFormula.between, LinearFormula.evaluate, none]
  · refine .inr (Scalar.divide_rat_eq_ok_iff.mpr ⟨none, ?_⟩)
    simp [LinearFormula.between, none]

end Zoompan

/-! ## Everything up to the command -/

/-- Nothing is divided by zero on the way from a template to its commands. -/
structure DividesSafely [Analytic ℚ] (template : Template ℚ) (infos : MediaMap ℚ) : Prop where
  /-- The speed that the length of a clip is divided by is not zero. -/
  speed : template.Moves
  /-- The aspect ratio that a width is divided by is not zero. -/
  aspect : infos.HasAspects
  duration : ∀ value, NoZeroDivision (Duration.ofValue template.scope value)
  /-- A quotient in a duration is one that division by its right side has. -/
  quotient : ∀ (left right quotient : ℚ) (whole : Duration.Expression),
    Duration.apply .divide left right whole = .ok quotient ↔
      Scalar.divide left right = .ok quotient
  canvas : NoZeroDivision (Canvas.size template infos)
  geometry : ∀ canvas, NoZeroDivision (template.geometry canvas infos)
  timeline : NoZeroDivision (template.resolveTimeline infos)
  framerates : NoZeroDivision (template.framerates infos)
  pans : ∀ places framerates, NoZeroDivision (template.pans places framerates)
  compile : ∀ canvas, NoZeroDivision (Plan.compile template infos canvas)
  /-- The speed that one is divided by for a picture is not zero. -/
  planned : ∀ canvas plan, Plan.compile template infos canvas = .ok plan →
    ∀ clip ∈ plan.clips, clip.speed ≠ 0
  /-- The count of frames is not zero where the way of a window is divided by it.  Where it
  is zero the window is at the destination. -/
  frames : ∀ canvas plan, Plan.compile template infos canvas = .ok plan →
    ∀ clip ∈ plan.clips, ∀ segment ∈ clip.zoompan, ∀ axis,
      ∀ formula ∈ (segment.along axis).formula,
        (segment.endAt - segment.startAt) * clip.framerate = 0 ∧
            (∀ frame, formula.evaluate frame = (segment.along axis).final) ∨
          Scalar.divide ((segment.along axis).final - (segment.along axis).start)
            ((segment.endAt - segment.startAt) * clip.framerate) = .ok formula.step
  command : ∀ canvas plan, Plan.compile template infos canvas = .ok plan →
    ∀ mode codec, NoZeroDivision (Command.ofPlan plan mode codec)
  /-- The degree of a root of the speed, by which one is divided, is not zero. -/
  tempo : ∀ (speed : ℚ) test count, Tempo.shortest? speed test = some count → count ≠ 0

/-- A template that is read divides safely, if every source with a picture has a positive
size and the aspect ratio of it. -/
theorem dividesSafely_of_read [Analytic ℚ] {directory : Path} {value : Value ℚ}
    {template : Template ℚ} {infos : MediaMap ℚ}
    (accepted : Template.read directory value = .ok template)
    (measured : infos.IsMeasured) : DividesSafely template infos where
  speed := Template.moves_of_read accepted
  aspect := measured.hasAspects
  duration := Duration.avoids_ofValue template.scope
  quotient _ _ _ whole := Duration.apply_divide_eq_ok_iff whole
  canvas := Canvas.avoids_size template infos
  geometry _ := Placement.avoids_clipsAfter measured.hasAspects _ _ _
  timeline := Timeline.avoids_resolveTimeline (Template.moves_of_read accepted)
  framerates := template.avoids_framerates infos
  pans := template.avoids_pans
  compile := Plan.avoids_compile (Template.moves_of_read accepted) measured.hasAspects
  planned _ _ compiled _ member := (Plan.speed_pos_of_compile accepted compiled member).ne'
  frames := by
    intro canvas plan compiled clip member segment inPan axis formula found
    obtain ⟨_, chain⟩ := Plan.exists_chain_of_compile compiled member axis
    rcases chain.motion_of_mem inPan with ⟨start, rests⟩ | ⟨start, destination, moves⟩
    · rw [rests] at found
      cases found
    · rw [moves] at found ⊢
      cases found
      exact Zoompan.between_cases _ _ _ _ _
  command _ _ compiled := Command.avoids_ofPlan fun _ member =>
    (Plan.speed_pos_of_compile accepted compiled member).ne'
  tempo _ _ _ found := (Tempo.shortest?_pos found).ne'

/-! ## A clip at double speed and half the width -/

/-- A template with one clip, at double speed, of which half the width of the canvas is
asked for and whose window moves. -/
def halvedSource : Value ℚ :=
  .map
    [(.text "clips", .list
      [.map [(.text "id", .text "halved"), (.text "file", .text "halved.mp4"),
        (.text "speed", .text "200%"),
        (.text "layout", .map [(.text "width", .text "50%")]),
        (.text "crop", .map [(.text "right", .text "50%")]),
        (.text "zoompan", .list
          [.map [(.text "keyframe", .number 2), (.text "x", .text "50%")]])]]),
      (.text "timeline", .map [(.number 0, .list [.list [.text "halved"]])]),
      (.text "preview", .number 1)]

/-- The template that is read from it. -/
def halvedTemplate : Template ℚ where
  clips :=
    [{ Clip.plain "halved" "/halved.mp4" with
        speed := some "200%"
        layout := ⟨none, none, some (.text "50%"), none, none⟩
        crop := ⟨none, some (.text "50%"), none, none⟩
        zoompan := [⟨.number 2, .text "50%", .null, .null⟩] }]
  size := ⟨.text "100%", .text "100%", some "halved", "black"⟩
  timeline := [(.number 0, [⟨["halved"], 0⟩])]
  preview := .number 1
  keypoints := []
  directory := ⟨"/", []⟩

def halvedInfos : MediaMap ℚ :=
  [("halved", ⟨200, 100, 10, some 6, some 2, false, .video⟩)]

theorem isMeasured_halvedInfos : halvedInfos.IsMeasured := by
  intro id info listed _
  obtain ⟨before, after, split, -⟩ := List.lookup_eq_some_iff.mp listed
  have member : (id, info) ∈ halvedInfos := by simp [split]
  cases List.mem_singleton.mp member
  norm_num

/-- On the way to its plan the six seconds of the clip are divided by two, and so is its
width, by the aspect ratio. -/
theorem dividesSafely_halvedTemplate :
    Template.read ⟨"/", []⟩ halvedSource = .ok halvedTemplate ∧ halvedInfos.IsMeasured ∧
      @DividesSafely Command.unturned halvedTemplate halvedInfos ∧
      ∃ plan, @Plan.compile ℚ _ Command.unturned halvedTemplate halvedInfos none = .ok plan ∧
        plan.clips.map (fun clip => (clip.duration, clip.geometry.map Geometry.scale)) =
          [(3, some ⟨100, 50⟩)] := by
  have accepted : Template.read ⟨"/", []⟩ halvedSource = .ok halvedTemplate := by
    with_unfolding_all rfl
  have evaluated :
      (@Plan.compile ℚ _ Command.unturned halvedTemplate halvedInfos none).toOption.map
        (fun plan => plan.clips.map fun clip =>
          (clip.duration, clip.geometry.map Geometry.scale)) = some [(3, some ⟨100, 50⟩)] := by
    decide +kernel
  obtain ⟨plan, compiled, clips_eq⟩ := Option.map_eq_some_iff.mp evaluated
  exact ⟨accepted, isMeasured_halvedInfos,
    @dividesSafely_of_read Command.unturned _ _ _ _ accepted isMeasured_halvedInfos, plan,
    Result.toOption_eq_some_iff.mp compiled, clips_eq⟩

end Montage
