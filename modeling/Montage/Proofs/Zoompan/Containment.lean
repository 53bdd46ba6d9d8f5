import Montage.Command.Basic
import Montage.Proofs.Geometry.Window
import Montage.Proofs.Zoompan.Offset

/-!
# The window never leaves its frame

Three things keep the window of a clip inside its frame.  Where the crop puts it, it lies
in the frame; the destinations of a pan lie within the room that the crop leaves; and
between two places in the room a motion stays in it.  A preview rounds the offset down,
which keeps it in the room as well, because the room is a whole number of pixels.
-/

namespace Montage

open Zoompan

variable {axis : Axis} {framerate time base : ℚ} {segments : List (Segment ℚ)}

namespace Zoompan

/-- A window that begins within its room stays there. -/
theorem Chain.offsetAt_mem {room : ℚ} (chain : Chain axis framerate room 0 0 segments)
    (time : ℚ) (nonneg : 0 ≤ base) (within : base ≤ room) :
    0 ≤ offsetAt axis framerate time base segments ∧
      offsetAt axis framerate time base segments ≤ room := by
  rw [offsetAt]
  cases found : segments.find? fun segment => (segment.along axis).moves with
  | none => exact ⟨nonneg, within⟩
  | some first =>
      by_cases early : time < first.startAt
      · simp only [early, if_true]
        exact ⟨nonneg, within⟩
      · have begun : 0 ≤ time :=
          (chain.le_startAt first (List.mem_of_find?_eq_some found)).trans (not_lt.mp early)
        simp only [early, if_false]
        exact chain.positionAt_mem begun le_rfl (nonneg.trans within)

end Zoompan

/-- In a frame that holds the window, rounding down keeps it there. -/
theorem Geometry.IsContained.floor_mem {geometry : Geometry ℚ} {window : Window}
    (contained : geometry.IsContained) (cropped : geometry.crop = some window)
    (chain : Zoompan.Chain axis framerate (geometry.room axis) 0 0 segments) :
    0 ≤ ⌊offsetAt axis framerate time (window.offset axis) segments⌋ ∧
      ⌊offsetAt axis framerate time (window.offset axis) segments⌋ ≤
        geometry.frame.along axis - window.size.along axis := by
  have lies := contained window cropped axis
  have room_eq : geometry.room axis = geometry.frame.along axis - window.size.along axis := by
    rw [Geometry.room, cropped]
  have within : window.offset axis ≤ geometry.room axis := by
    rw [room_eq]
    exact le_sub_iff_add_le.mpr lies.end_le
  rcases chain.offsetAt_mem time (Int.cast_nonneg lies.offset_nonneg)
    (Int.cast_le.mpr within) with ⟨offsetNonneg, offsetLe⟩
  constructor
  · exact Int.floor_nonneg.mpr offsetNonneg
  · rw [← room_eq]
    exact Int.floor_le_iff.mpr (offsetLe.trans_lt (by linarith))

namespace Command

theorem windowPosition_at {planned : PlannedClip ℚ} {window : Window} {room : ℚ}
    (chain : Zoompan.Chain axis planned.framerate room 0 0 planned.zoompan) :
    windowPosition planned (some time) window axis =
      .ok (.held
        ⌊offsetAt axis planned.framerate time (window.offset axis) planned.zoompan⌋) := by
  simp only [windowPosition, Scalar.ofInt_rat, panOffset_eq_ok chain, Scalar.floor_rat,
    Scalar.toReal_rat, Result.lift_ok, Result.ok_bind]
  rfl

/-- At every instant the window that a preview cuts out of a placed clip lies in the
frame of the clip. -/
theorem cropFilters_mem_frame [Analytic ℚ] {template : Template ℚ} {canvas : Extent}
    {infos : MediaMap ℚ} {places : GeometryMap ℚ} {scope : Scope ℚ} {clip : Clip ℚ}
    {geometry : Geometry ℚ} {window : Window} (planned : PlannedClip ℚ)
    (located : template.geometry canvas infos = .ok places)
    (place : (clip.id, geometry) ∈ places) (cropped : geometry.crop = some window)
    (made : Zoompan.segments scope clip geometry planned.framerate = .ok planned.zoompan)
    (instant : ℚ) :
    ∃ offset : Axis → ℚ,
      (∀ axis, panOffset planned.zoompan axis (instant - planned.startAt) planned.framerate
        (window.offset axis) = .ok (offset axis)) ∧
      cropFilters planned (some instant) geometry =
        .ok [.crop window.size (.held ⌊offset .horizontal⌋) (.held ⌊offset .vertical⌋)] ∧
      ∀ axis, 0 ≤ ⌊offset axis⌋ ∧
        ⌊offset axis⌋ ≤ geometry.frame.along axis - window.size.along axis := by
  have contained : geometry.IsContained := Template.isContained_of_geometry located _ place
  have chain (axis : Axis) := segments_chain axis made
  refine ⟨fun axis => offsetAt axis planned.framerate (instant - planned.startAt)
    (window.offset axis) planned.zoompan, ?_, ?_, ?_⟩
  · exact fun axis => panOffset_eq_ok (chain axis)
  · have time_eq : (some instant).mapM (fun instant =>
        (liftM (Scalar.checked (instant - planned.startAt)) : Result ℚ ℚ)) =
          .ok (some (instant - planned.startAt)) :=
      rfl
    rw [cropFilters, cropped]
    simp only [time_eq, Result.ok_bind, windowPosition_at (chain .horizontal),
      windowPosition_at (chain .vertical)]
    rfl
  · exact fun axis => contained.floor_mem cropped (chain axis)

/-! ## A window in motion -/

deriving instance DecidableEq for Rotation
deriving instance DecidableEq for Geometry

/-- Sines and cosines of the angle zero, and first roots: where nothing is turned, no
others are needed. -/
@[reducible]
def unturned : Analytic ℚ :=
  ⟨fun _ => 0, fun _ => 1, fun x _ => x⟩

/-- A template with one clip. -/
def panningTemplate : Template ℚ where
  clips := [panningClip]
  size := ⟨.null, .null, none, "black"⟩
  timeline := [(.number 0, [⟨["panning"], 0⟩])]
  preview := .null
  keypoints := []
  directory := ⟨"/", []⟩

def panningInfos : MediaMap ℚ :=
  [("panning", ⟨100, 100, 30, some 10, some 1, false, .video⟩)]

/-- The clip in its plan, where it begins after three seconds. -/
def panningPlanned : PlannedClip ℚ where
  clipId := "panning"
  file := some "panning.mp4"
  kind := .video
  startAt := 3
  duration := 10
  trimStart := 0
  speed := 1
  zIndex := 0
  framerate := 30
  hasAudio := false
  geometry := some panningPlace
  zoompan := panningSegments
  retime := false
  smooth := false
  volume := 1
  fadeIn := 0
  fadeOut := 0

/-- Shortly before the end of a motion the window is still on its way. -/
theorem cropFilters_panningPlanned :
    ∃ offset : Axis → ℚ, offset .horizontal = 99 / 5 ∧
      cropFilters panningPlanned (some (499 / 100)) panningPlace =
        .ok [.crop ⟨50, 100⟩ (.held ⌊offset .horizontal⌋) (.held ⌊offset .vertical⌋)] ∧
      ∀ axis, 0 ≤ ⌊offset axis⌋ ∧
        ⌊offset axis⌋ ≤ panningPlace.frame.along axis - Extent.along ⟨50, 100⟩ axis := by
  let _ := unturned
  have located : panningTemplate.geometry ⟨100, 100⟩ panningInfos =
      .ok [("panning", panningPlace)] := by
    rw [← Result.toOption_eq_some_iff]
    decide +kernel
  have onTheWay : panOffset panningSegments .horizontal (499 / 100 - 3) 30 (7 : ℤ) =
      .ok (99 / 5) := by
    rw [← Result.toOption_eq_some_iff]
    decide +kernel
  rcases cropFilters_mem_frame panningPlanned located List.mem_cons_self rfl
    (segments_panningClip ⟨[], []⟩) (499 / 100) with ⟨offset, found, cut, inside⟩
  refine ⟨offset, ?_, cut, inside⟩
  exact Except.ok.inj ((found .horizontal).symm.trans onTheWay)

end Command

end Montage
