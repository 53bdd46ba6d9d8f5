import Montage.Plan.Basic
import Montage.Proofs.Zoompan.Chain

/-!
# Where the clips of a plan come from

A plan has one clip for each entry of the timeline, with the rate of frames, the geometry
and the segments that are kept under the id of the clip that it shows.  The segments
under an id were made at the rate of frames under the same id, so along each axis the
segments of a planned clip are a chain at its own rate.
-/

namespace Montage

section Entries

variable {α : Type} [Scalar α] {template : Template α} {infos : MediaMap α} {plan : Plan α}

/-- The segments that are kept under an id were made at the rate of frames that is kept
under it. -/
theorem Template.exists_segments_of_pans {places : GeometryMap α} {framerates : List (String × α)}
    {pans : PanMap α} (made : template.pans places framerates = .ok pans) {id : String}
    {segments : List (Segment α)} (found : pans.lookup id = some segments) :
    ∃ clip place framerate, framerates.lookup id = some framerate ∧
      Zoompan.segments template.scope clip place framerate = .ok segments := by
  rcases List.lookup_eq_some_iff.mp found with ⟨before, after, rfl, _⟩
  have member : (id, segments) ∈ before ++ (id, segments) :: after := by simp
  rcases Result.exists_item_of_filterMapM made member with ⟨clip, _, segmented⟩
  split at segmented
  · rename_i place framerate placed timed
    simp only [Result.bind_eq_ok_iff, Result.pure_eq_ok_iff, Option.some.injEq,
      Prod.mk.injEq] at segmented
    rcases segmented with ⟨_, moved, rfl, rfl⟩
    exact ⟨clip, place, framerate, timed, moved⟩
  · cases segmented

/-- The entry of the timeline that a clip of a plan shows. -/
def PlannedClip.entry (planned : PlannedClip α) : Entry α where
  clipId := planned.clipId
  startAt := planned.startAt
  duration := planned.duration
  trimStart := planned.trimStart
  speed := planned.speed
  zIndex := planned.zIndex

namespace Plan

/-- A clip of a plan shows the entry that it is made of. -/
theorem entry_of_ofEntry {parts : Parts α} {entry : Entry α} {planned : PlannedClip α}
    (resolved : ofEntry parts entry = .ok planned) : planned.entry = entry := by
  simp only [ofEntry, Result.bind_eq_ok_iff, Result.pure_eq_ok_iff] at resolved
  rcases resolved with ⟨_, _, _, _, _, _, _, _, _, _, _, _, rfl⟩
  rfl

/-- What a clip of a plan takes over from what is known about the clip that it shows. -/
theorem ofEntry_cases {parts : Parts α} {entry : Entry α} {planned : PlannedClip α}
    (resolved : ofEntry parts entry = .ok planned) :
    ∃ clip, parts.template.clip entry.clipId = .ok clip ∧
      parts.framerates.lookup clip.id = some planned.framerate ∧
      planned.zoompan = (parts.pans.lookup clip.id).getD [] := by
  simp only [ofEntry, Result.bind_eq_ok_iff, Result.pure_eq_ok_iff] at resolved
  rcases resolved with
    ⟨clip, found, info, _, framerate, timed, volume, _, fadeIn, _, fadeOut, _, rfl⟩
  refine ⟨clip, found, ?_, rfl⟩
  cases known : parts.framerates.lookup clip.id with
  | none =>
      rw [known] at timed
      cases timed
  | some rate =>
      rw [known] at timed
      cases timed
      rfl

variable [Analytic α]

/-- A compiled plan has been compiled on some canvas. -/
theorem exists_canvas_of_compile {canvas : Option Extent}
    (compiled : compile template infos canvas = .ok plan) :
    ∃ extent, compileOn extent template infos = .ok plan := by
  cases canvas with
  | some extent => exact ⟨extent, compiled⟩
  | none =>
      rcases Result.bind_eq_ok_iff.mp compiled with ⟨extent, _, compiledOn⟩
      exact ⟨extent, compiledOn⟩

/-- The clips of a plan are made of the entries of the timeline, all from the same
parts. -/
theorem exists_parts_of_compileOn {extent : Extent}
    (compiled : compileOn extent template infos = .ok plan) :
    ∃ parts timeline, parts.template = template ∧
      template.resolveTimeline infos = .ok timeline ∧
      template.pans parts.geometry parts.framerates = .ok parts.pans ∧
      timeline.entries.mapM (ofEntry parts) = .ok plan.clips := by
  simp only [compileOn, Result.bind_eq_ok_iff, Result.pure_eq_ok_iff] at compiled
  rcases compiled with ⟨geometry, _, timeline, resolved, framerates, _, pans, made, clips,
    entered, preview, _, rfl⟩
  exact ⟨⟨template, infos, geometry, framerates, pans⟩, timeline, rfl, resolved, made, entered⟩

/-- The clips of a plan show the entries of the timeline, in their order. -/
theorem exists_timeline_of_compile {canvas : Option Extent}
    (compiled : compile template infos canvas = .ok plan) :
    ∃ timeline, template.resolveTimeline infos = .ok timeline ∧
      plan.clips.map PlannedClip.entry = timeline.entries := by
  rcases exists_canvas_of_compile compiled with ⟨extent, compiledOn⟩
  rcases exists_parts_of_compileOn compiledOn with ⟨parts, timeline, rfl, resolved, _, entered⟩
  refine ⟨timeline, resolved, ?_⟩
  have matched := Result.mapM_eq_ok_iff.mp entered
  rw [← List.forall₂_eq_eq_eq, List.forall₂_map_left_iff]
  exact matched.flip.imp fun _ _ => entry_of_ofEntry

end Plan

end Entries

/-- The segments of a clip of a compiled plan are a chain at the rate of frames of the
clip. -/
theorem Plan.exists_chain_of_compile [Analytic ℚ] {template : Template ℚ} {infos : MediaMap ℚ}
    {canvas : Option Extent} {plan : Plan ℚ}
    (compiled : Plan.compile template infos canvas = .ok plan) {planned : PlannedClip ℚ}
    (member : planned ∈ plan.clips) (axis : Axis) :
    ∃ room, Zoompan.Chain axis planned.framerate room 0 0 planned.zoompan := by
  rcases exists_canvas_of_compile compiled with ⟨extent, compiledOn⟩
  rcases exists_parts_of_compileOn compiledOn with ⟨parts, timeline, rfl, _, made, entered⟩
  rcases Result.exists_item_of_mapM entered member with ⟨entry, _, resolved⟩
  rcases ofEntry_cases resolved with ⟨clip, _, timed, zoompan_eq⟩
  cases found : parts.pans.lookup clip.id with
  | none =>
      rw [zoompan_eq, found]
      exact ⟨0, .nil 0 0⟩
  | some segments =>
      rcases Template.exists_segments_of_pans made found with ⟨_, _, _, sameRate, moved⟩
      cases timed.symm.trans sameRate
      rw [zoompan_eq, found]
      exact ⟨_, Zoompan.segments_chain axis moved⟩

end Montage
