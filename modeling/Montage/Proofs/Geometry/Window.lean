import Montage.Geometry.Placement
import Montage.Proofs.Result

/-!
# Windows lie inside their frames

A window is checked against the frame that it is cut out of, along both axes, before a
clip is placed.  So a crop of a placed clip is never empty and never reaches over an edge
of the turned box, or of the scaled picture of a clip that is not turned.
-/

namespace Montage

/-- A window with a size lies between the edges of a frame along an axis. -/
structure Window.LiesIn (window : Window) (frame : Extent) (axis : Axis) : Prop where
  offset_nonneg : 0 ≤ window.offset axis
  size_pos : 0 < window.size.along axis
  end_le : window.offset axis + window.size.along axis ≤ frame.along axis

/-- What a geometry shows of its frame lies in the frame. -/
def Geometry.IsContained {α : Type} (geometry : Geometry α) : Prop :=
  ∀ window ∈ geometry.crop, ∀ axis, window.LiesIn geometry.frame axis

namespace Placement

variable {α : Type}

theorem checkWindow_eq_ok_iff {id : String} {axis : Axis} {offset extent whole : ℤ} :
    (checkWindow id axis offset extent whole : Result α Unit) = .ok () ↔
      0 ≤ offset ∧ 0 < extent ∧ offset + extent ≤ whole := by
  rw [checkWindow]
  split
  · rename_i outside
    constructor
    · intro accepted
      cases accepted
    · rintro ⟨offsetNonneg, extentPos, ends⟩
      omega
  · rename_i inside
    constructor
    · intro _
      omega
    · intro _
      rfl

variable [Scalar α]

/-- A window that is left of a frame lies in it. -/
theorem liesIn_of_window {id : String} {crop : Edges α} {frame : Extent} {found : Window}
    (cut : window id crop frame = .ok found) (axis : Axis) : found.LiesIn frame axis := by
  simp only [window, Result.bind_eq_ok_iff, Result.pure_eq_ok_iff] at cut
  rcases cut with ⟨right, _, bottom, _, left, _, top, _, _, checkedX, _, checkedY, rfl⟩
  cases axis with
  | horizontal =>
      rcases checkWindow_eq_ok_iff.mp checkedX with ⟨offsetNonneg, sizePos, ends⟩
      exact ⟨offsetNonneg, sizePos, ends⟩
  | vertical =>
      rcases checkWindow_eq_ok_iff.mp checkedY with ⟨offsetNonneg, sizePos, ends⟩
      exact ⟨offsetNonneg, sizePos, ends⟩

variable [Analytic α] {canvas : Extent}

/-- Placing a clip keeps its window in the turned box or in the scaled picture. -/
theorem isContained_of_clip {placed : GeometryMap α} {source : Clip α} {info : MediaInfo α}
    {geometry : Geometry α} (located : clip canvas placed source info = .ok geometry) :
    geometry.IsContained := by
  simp only [clip, Result.bind_eq_ok_iff] at located
  rcases located with ⟨whole, _, scale, _, rotate, _, located⟩
  intro window member axis
  have frame_eq {x y : ℤ} {crop : Option Window} : Geometry.frame ⟨x, y, scale, rotate, crop⟩ =
      (rotate.map Rotation.bounds).getD scale := by
    cases rotate <;> rfl
  split at located
  · simp only [Result.bind_eq_ok_iff, Result.pure_eq_ok_iff] at located
    rcases located with ⟨found, cut, crop, rfl, x, _, y, _, rfl⟩
    cases Option.mem_some_iff.mp member
    rw [frame_eq]
    exact liesIn_of_window cut axis
  · simp only [Result.bind_eq_ok_iff, Result.pure_eq_ok_iff] at located
    rcases located with ⟨crop, rfl, x, _, y, _, rfl⟩
    cases member

/-- Windows stay in their frames while clip after clip is placed. -/
theorem isContained_of_clipsAfter {infos : MediaMap α} {clips : List (Clip α)}
    {placed all : GeometryMap α} (contained : ∀ place ∈ placed, place.2.IsContained)
    (located : clipsAfter canvas infos placed clips = .ok all) :
    ∀ place ∈ all, place.2.IsContained := by
  induction clips generalizing placed with
  | nil =>
      cases located
      exact contained
  | cons next rest ih =>
      simp only [clipsAfter, Result.bind_eq_ok_iff] at located
      rcases located with ⟨info, _, located⟩
      split at located
      · exact ih contained located
      · rcases Result.bind_eq_ok_iff.mp located with ⟨geometry, locatedNext, locatedRest⟩
        apply ih _ locatedRest
        intro place member
        rcases List.mem_append.mp member with earlier | newest
        · exact contained place earlier
        · cases List.mem_singleton.mp newest
          exact isContained_of_clip locatedNext

end Placement

/-- Every window of a template that is placed lies in its frame. -/
theorem Template.isContained_of_geometry {α : Type} [Scalar α] [Analytic α]
    {template : Template α} {canvas : Extent} {infos : MediaMap α} {places : GeometryMap α}
    (located : template.geometry canvas infos = .ok places) :
    ∀ place ∈ places, place.2.IsContained :=
  Placement.isContained_of_clipsAfter (by simp) located

end Montage
