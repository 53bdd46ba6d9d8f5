import Montage.Proofs.Plan
import Montage.Proofs.Zoompan.Containment
import Montage.Proofs.Zoompan.PanExpression

/-!
# Pans of clips at another speed

The speed of a clip stretches its timestamps: without a conversion of its rate, a frame of
the source is shown after the frames before it, of which there are as many in a second as
the rate and the speed make together.  A whole output pans by the number of the frame.  A
preview pans by the time since the clip began, at the rate of the source, and takes no
account of the speed.  So at the instant at which a frame is shown a preview has the
window of the frame whose number is smaller by the speed, and at a speed other than one
the two agree along the pan only if the window rests behind its first frame.
-/

namespace Montage

open Zoompan

variable {axis : Axis} {framerate base : ℚ} {segments : List (Segment ℚ)}

/-- The instant of the output at which a frame of the source is shown, the first of which
has the number zero.  The rate of frames is not converted. -/
def PlannedClip.instantOf (planned : PlannedClip ℚ) (frame : ℚ) : ℚ :=
  planned.startAt + frame / (planned.framerate * planned.speed)

/-! ## Where a pan ends -/

namespace Zoompan

/-- From some time on the window rests. -/
theorem exists_forall_positionAt_eq (axis : Axis) (framerate position : ℚ)
    (segments : List (Segment ℚ)) :
    ∃ last final, ∀ time, last ≤ time →
      positionAt axis framerate time position segments = final := by
  induction segments generalizing position with
  | nil => exact ⟨0, position, fun _ _ => rfl⟩
  | cons segment rest ih =>
      obtain ⟨last, final, rests⟩ := ih (segment.along axis).final
      refine ⟨max last segment.endAt, final, fun time late => ?_⟩
      rw [positionAt, if_neg (not_lt.mpr ((le_max_right _ _).trans late))]
      exact rests time ((le_max_left _ _).trans late)

/-- From some time on the offset of a pan stays as it is. -/
theorem exists_forall_offsetAt_eq (axis : Axis) (framerate base : ℚ)
    (segments : List (Segment ℚ)) :
    ∃ last final, ∀ time, last ≤ time → offsetAt axis framerate time base segments = final := by
  cases found : segments.find? fun segment => (segment.along axis).moves with
  | none => exact ⟨0, base, fun _ _ => by rw [offsetAt, found]⟩
  | some first =>
      obtain ⟨last, final, rests⟩ := exists_forall_positionAt_eq axis framerate 0 segments
      refine ⟨max last first.startAt, final, fun time late => ?_⟩
      have begun : ¬time < first.startAt := not_lt.mpr ((le_max_right _ _).trans late)
      simp only [offsetAt, found, if_neg begun]
      exact rests time ((le_max_left _ _).trans late)

end Zoompan

/-! ## Slowing down -/

variable {path : ℚ → ℚ} {factor : ℚ}

/-- Something that comes to rest and looks the same when it is run faster has been at rest
all the time. -/
private theorem eq_of_forall_eq_mul
    (settles : ∃ last final, ∀ time, last ≤ time → path time = final)
    (faster : 1 < factor) (same : ∀ time, 0 < time → path (time * factor) = path time) :
    ∃ final, ∀ time, 0 < time → path time = final := by
  obtain ⟨last, final, rests⟩ := settles
  have repeated (count : ℕ) (time : ℚ) (positive : 0 < time) :
      path (time * factor ^ count) = path time := by
    induction count with
    | zero => rw [pow_zero, mul_one]
    | succ count ih =>
        have later : 0 < time * factor ^ count :=
          mul_pos positive (pow_pos (one_pos.trans faster) count)
        rw [pow_succ, ← mul_assoc, same _ later, ih]
  refine ⟨final, fun time positive => ?_⟩
  obtain ⟨count, passed⟩ := pow_unbounded_of_one_lt (last / time) faster
  rw [← repeated count time positive]
  apply rests
  rw [mul_comm]
  exact ((div_lt_iff₀ positive).mp passed).le

/-- Something that comes to rest looks the same at another speed only if it has been at
rest all the time. -/
theorem forall_eq_div_iff (settles : ∃ last final, ∀ time, last ≤ time → path time = final)
    {speed : ℚ} (positive : 0 < speed) :
    (∀ time, 0 ≤ time → path time = path (time / speed)) ↔
      speed = 1 ∨ ∃ final, ∀ time, 0 < time → path time = final := by
  constructor
  · intro same
    rcases lt_trichotomy speed 1 with slower | normal | faster
    · refine .inr (eq_of_forall_eq_mul settles ((one_lt_inv₀ positive).mpr slower) ?_)
      intro time after
      rw [← div_eq_mul_inv]
      exact (same time after.le).symm
    · exact .inl normal
    · refine .inr (eq_of_forall_eq_mul settles faster ?_)
      intro time after
      rw [same _ (mul_pos after positive).le, mul_div_cancel_right₀ _ positive.ne']
  · rintro (rfl | ⟨final, rests⟩) time nonneg
    · rw [div_one]
    · rcases nonneg.eq_or_lt with rfl | after
      · rw [zero_div]
      · rw [rests time after, rests _ (div_pos after positive)]

/-! ## The two kinds of command -/

namespace Command

open PanExpression

theorem windowPosition_video {planned : PlannedClip ℚ} {window : Window} :
    windowPosition planned none window axis =
      .ok (ofPan planned.zoompan axis planned.framerate (window.offset axis)) := by
  rw [windowPosition, toReal_rat]
  rfl

/-- What a preview shows at the instant of a frame is what the whole output shows at the
frame whose number is divided by the speed.  They agree at all frames exactly at normal
speed, or if the window does not move behind the first frame. -/
theorem shownValue?_div_speed [Analytic ℚ] {template : Template ℚ} {infos : MediaMap ℚ}
    {canvas : Option Extent} {plan : Plan ℚ} {planned : PlannedClip ℚ} {geometry : Geometry ℚ}
    {window : Window} (compiled : Plan.compile template infos canvas = .ok plan)
    (member : planned ∈ plan.clips) (cropped : geometry.crop = some window)
    (framerate_pos : 0 < planned.framerate) (speed_pos : 0 < planned.speed)
    (short : ∀ axis, IsShortPan axis planned.framerate planned.zoompan) :
    ∃ (shown : Axis → PanExpression ℚ) (previewed : Axis → ℚ → ℚ),
      cropFilters planned none geometry =
        .ok [.crop window.size (shown .horizontal) (shown .vertical)] ∧
      ∀ axis,
        (∀ frame, panOffset planned.zoompan axis (planned.instantOf frame - planned.startAt)
          planned.framerate (window.offset axis) = .ok (previewed axis frame)) ∧
        (∀ frame, (shown axis).shownValue? (frame / planned.speed) =
          some (previewed axis frame)) ∧
        ((∀ frame, 0 ≤ frame → (shown axis).shownValue? frame = some (previewed axis frame)) ↔
          planned.speed = 1 ∨
            ∃ offset, ∀ frame, 0 < frame → (shown axis).shownValue? frame = some offset) := by
  let path (axis : Axis) (frame : ℚ) : ℚ :=
    offsetAt axis planned.framerate (frame / planned.framerate) (window.offset axis)
      planned.zoompan
  have shown (axis : Axis) (frame : ℚ) :
      (ofPan planned.zoompan axis planned.framerate (window.offset axis)).shownValue? frame =
        some (path axis frame) := by
    obtain ⟨room, chain⟩ := Plan.exists_chain_of_compile compiled member axis
    rw [shownValue?_eq_value (isShort_ofPan (short axis)), value_ofPan chain framerate_pos]
  refine ⟨fun axis => ofPan planned.zoompan axis planned.framerate (window.offset axis),
    fun axis frame => path axis (frame / planned.speed), ?_, fun axis => ⟨?_, ?_, ?_⟩⟩
  · have untimed : (none : Option ℚ).mapM (fun instant =>
        (liftM (Scalar.checked (instant - planned.startAt)) : Result ℚ ℚ)) = .ok none :=
      rfl
    rw [cropFilters, cropped]
    simp only [untimed, windowPosition_video, Result.ok_bind]
    rfl
  · intro frame
    obtain ⟨room, chain⟩ := Plan.exists_chain_of_compile compiled member axis
    have time_eq : planned.instantOf frame - planned.startAt =
        frame / planned.speed / planned.framerate := by
      rw [PlannedClip.instantOf, add_sub_cancel_left, mul_comm, div_div]
    rw [time_eq, panOffset_eq_ok chain]
  · exact fun frame => shown axis _
  · have settles : ∃ last final, ∀ frame, last ≤ frame → path axis frame = final := by
      obtain ⟨last, final, rests⟩ :=
        exists_forall_offsetAt_eq axis planned.framerate (window.offset axis) planned.zoompan
      refine ⟨last * planned.framerate, final, fun frame late => rests _ ?_⟩
      exact (le_div_iff₀ framerate_pos).mpr late
    simp only [shown, Option.some.injEq]
    exact forall_eq_div_iff settles speed_pos

/-! ## A clip at double speed -/

deriving instance DecidableEq for PlannedClip
deriving instance DecidableEq for Plan

/-- A template with one clip, at double speed, whose window moves through its frame within
two seconds. -/
def fastTemplate : Template ℚ where
  clips :=
    [{ Clip.plain "fast" "fast.mp4" with
        speed := some "200%"
        crop := ⟨none, some (.text "50%"), none, none⟩
        zoompan := [⟨.number 2, .text "50%", .null, .null⟩] }]
  size := ⟨.text "200px", .text "100px", none, "black"⟩
  timeline := [(.number 0, [⟨["fast"], 0⟩])]
  preview := .number 0
  keypoints := []
  directory := ⟨"/", []⟩

def fastInfos : MediaMap ℚ :=
  [("fast", ⟨200, 100, 10, some 6, some 2, false, .video⟩)]

def fastPlace : Geometry ℚ :=
  ⟨0, 0, ⟨200, 100⟩, none, some ⟨0, 0, 100, 100⟩⟩

/-- The clip in its plan. -/
def fastPlanned : PlannedClip ℚ where
  clipId := "fast"
  file := some "fast.mp4"
  kind := .video
  startAt := 0
  duration := 3
  trimStart := 0
  speed := 2
  zIndex := 0
  framerate := 10
  hasAudio := false
  geometry := some fastPlace
  zoompan := [⟨0, 2, .moving 0 2 10 0 100, .resting 0, 1, none⟩]
  retime := false
  smooth := false
  volume := 1
  fadeIn := 0
  fadeOut := 0

theorem compile_fastTemplate :
    @Plan.compile ℚ _ unturned fastTemplate fastInfos none =
      .ok ⟨⟨200, 100⟩, "black", 3, 0, [fastPlanned]⟩ := by
  rw [← Result.toOption_eq_some_iff]
  decide +kernel

theorem isShortPan_fastPlanned (axis : Axis) :
    IsShortPan axis fastPlanned.framerate fastPlanned.zoompan := by
  cases axis <;> constructor <;> decide +kernel

/-- In the middle of the motion the preview is where the whole output was at half the
frame. -/
theorem shownValue?_fastPlanned :
    ∃ (shown : Axis → PanExpression ℚ) (previewed : Axis → ℚ → ℚ),
      cropFilters fastPlanned none fastPlace =
        .ok [.crop ⟨100, 100⟩ (shown .horizontal) (shown .vertical)] ∧
      previewed .horizontal 10 = 25 ∧
      (shown .horizontal).shownValue? (10 / 2) = some (previewed .horizontal 10) := by
  let _ := unturned
  obtain ⟨shown, previewed, filters, agrees⟩ :=
    shownValue?_div_speed compile_fastTemplate List.mem_cons_self
      (show fastPlace.crop = some ⟨0, 0, 100, 100⟩ from rfl) (by decide) (by decide)
      isShortPan_fastPlanned
  obtain ⟨offset_eq, slowed, _⟩ := agrees .horizontal
  refine ⟨shown, previewed, filters, ?_, slowed 10⟩
  have found : panOffset fastPlanned.zoompan .horizontal
      (fastPlanned.instantOf 10 - fastPlanned.startAt) fastPlanned.framerate (0 : ℤ) =
        .ok 25 := by
    rw [← Result.toOption_eq_some_iff]
    decide +kernel
  exact Except.ok.inj ((offset_eq 10).symm.trans found)

/-- At the instant at which the tenth frame is shown, the whole output has moved the window
twice as far as the preview. -/
theorem fastPlanned_previewed_elsewhere :
    @Plan.compile ℚ _ unturned fastTemplate fastInfos none =
        .ok ⟨⟨200, 100⟩, "black", 3, 0, [fastPlanned]⟩ ∧
      fastPlanned.geometry = some fastPlace ∧ fastPlanned.retime = false ∧
      ∃ shown, windowPosition fastPlanned none ⟨0, 0, 100, 100⟩ .horizontal = .ok shown ∧
        shown.shownValue? 10 = some 50 ∧
        panOffset fastPlanned.zoompan .horizontal
          (fastPlanned.startAt + 10 / (fastPlanned.framerate * fastPlanned.speed) -
            fastPlanned.startAt) fastPlanned.framerate (0 : ℤ) = .ok 25 := by
  refine ⟨compile_fastTemplate, rfl, rfl, _, windowPosition_video, ?_, ?_⟩
  · decide +kernel
  · rw [← Result.toOption_eq_some_iff]
    decide +kernel

end Command

end Montage
