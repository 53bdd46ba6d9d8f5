import Montage.Proofs.Timeline.Layers
import Montage.Proofs.Timeline.Stack

/-!
# Layers are runs of clips

Paddings cut a layer into runs.  Walking a layer plays the clips of a run back to back:
the cursor only moves to the end of an entry, also where clips are left out in between.  A
clip is left out only if it fits or has no length.  All of this is so over any numbers,
because nothing in it is compared: the beginning of an entry is the end of the one before
it by the same addition.
-/

namespace Montage.Timeline

variable {α : Type} [Scalar α] {template : Template α} {infos : MediaMap α} {everyFit : Bool}
variable {position total : α} {id : String} {run rest : List String} {zIndex : Int}
variable {entries row : List (Entry α)}

/-- A clip that a layer may leave out: it fits, or it lacks a length. -/
def IsOptional (template : Template α) (infos : MediaMap α) (id : String) : Prop :=
  ∃ clip, template.clip id = .ok clip ∧
    (clip.isFit = true ∨ Timing.LacksLength clip (infos.lookup id))

/-- Only optional clips are left out. -/
theorem isOptional_of_leftOut {clip : Clip α} {timing : Timing α}
    (found : template.clip id = .ok clip)
    (resolved : Timing.ofClip template.scope clip (infos.lookup id) position = .ok timing)
    (leftOut : played template infos everyFit total position clip timing rest = .ok none) :
    IsOptional template infos id :=
  ⟨clip, found, (leftOut_cases leftOut).imp_right (Timing.lacksLength_of_ofClip resolved)⟩

/-! ## Runs -/

/-- Entries that play one after another: the first begins at a position, and each other
where the one before it ends. -/
def BackToBack (position : α) : List (Entry α) → Prop
  | [] => True
  | entry :: rest => entry.startAt = position ∧ BackToBack entry.endAt rest

/-- The end of entries that play one after another from a position on. -/
def endFrom (position : α) : List (Entry α) → α
  | [] => position
  | entry :: rest => endFrom (position + entry.duration) rest

theorem BackToBack.last_endAt (abuts : BackToBack position row) :
    ∀ last ∈ row.getLast?, last.endAt = endFrom position row := by
  induction row generalizing position with
  | nil => simp
  | cons entry row ih =>
      obtain ⟨rfl, behind⟩ := abuts
      cases row with
      | nil =>
          rintro _ ⟨⟩
          rfl
      | cons next row =>
          rw [List.getLast?_cons_cons]
          exact ih behind

/-- The entries of a run of clips, in the order of the clips.  Only clips that are optional
have none. -/
inductive Kept (template : Template α) (infos : MediaMap α) (zIndex : Int) :
    List String → List (Entry α) → Prop
  | nil : Kept template infos zIndex [] []
  | leftOut {id : String} {run : List String} {row : List (Entry α)}
      (optional : IsOptional template infos id) (behind : Kept template infos zIndex run row) :
      Kept template infos zIndex (id :: run) row
  | played {id : String} {entry : Entry α} {run : List String} {row : List (Entry α)}
      (shows : entry.clipId = id) (onLevel : entry.zIndex = zIndex)
      (behind : Kept template infos zIndex run row) :
      Kept template infos zIndex (id :: run) (entry :: row)

/-- Something holds at a position in front of a row, and behind a clip of the row it goes on
to hold for the rest, whether the clip is left out or played. -/
def KeptByClips (template : Template α) (infos : MediaMap α) (everyFit : Bool) (total : α)
    (holds : α → List String → Prop) : Prop :=
  ∀ ⦃position : α⦄ ⦃id : String⦄ ⦃rest : List String⦄ ⦃clip : Clip α⦄ ⦃timing : Timing α⦄,
    id ≠ Layer.padding → template.clip id = .ok clip →
      Timing.ofClip template.scope clip (infos.lookup id) position = .ok timing →
      holds position (id :: rest) →
      (played template infos everyFit total position clip timing rest = .ok none →
        holds position rest) ∧
      ∀ length start,
        played template infos everyFit total position clip timing rest =
          .ok (some (length, start)) →
        holds (position + length) rest

/-- What a walk makes of a run of clips: entries that play back to back, and where they
end the walk goes on with what is behind the run.  What clips keep holds there as well. -/
theorem entriesFrom_append {holds : α → List String → Prop}
    (preserved : KeptByClips template infos everyFit total holds) (clips : Layer.padding ∉ run)
    (first : holds position (run ++ rest))
    (walked : entriesFrom template infos everyFit total zIndex position (run ++ rest) =
      .ok entries) :
    ∃ row later, entries = row ++ later ∧ Kept template infos zIndex run row ∧
      BackToBack position row ∧ holds (endFrom position row) rest ∧
      entriesFrom template infos everyFit total zIndex (endFrom position row) rest =
        .ok later := by
  induction run generalizing position entries with
  | nil => exact ⟨[], entries, rfl, .nil, trivial, first, walked⟩
  | cons id run ih =>
      rw [List.mem_cons, not_or] at clips
      rcases entriesFrom_cons_cases walked with
        ⟨pad, _⟩ | ⟨clipId, clip, timing, found, resolved, walk⟩
      · exact absurd pad.symm clips.1
      · have next := preserved clipId found resolved first
        rcases walk with ⟨leftOut, walkedRest⟩ | ⟨length, start, behind, plays, walkedRest, rfl⟩
        · obtain ⟨row, later, rfl, kept, abuts, goesOn⟩ := ih clips.2 (next.1 leftOut) walkedRest
          exact ⟨row, later, rfl,
            .leftOut (isOptional_of_leftOut found resolved leftOut) kept, abuts, goesOn⟩
        · obtain ⟨row, later, rfl, kept, abuts, goesOn⟩ :=
            ih clips.2 (next.2 length start plays) walkedRest
          exact ⟨_ :: row, later, rfl, .played rfl rfl kept, ⟨rfl, abuts⟩, goesOn⟩

/-- What holds anywhere is kept. -/
theorem keptByClips_true : KeptByClips template infos everyFit total fun _ _ => True :=
  fun _ _ _ _ _ _ _ _ _ => ⟨fun _ => trivial, fun _ _ _ => trivial⟩

/-! ## Layers -/

/-- What becomes of a layer from a position on.  The clips up to the first padding play back
to back from there, and the clips behind a padding from where it has moved the cursor. -/
inductive Plays (template : Template α) (infos : MediaMap α) (zIndex : Int) :
    α → List String → List (Entry α) → Prop
  | run {position : α} {run : List String} {row : List (Entry α)}
      (clips : Layer.padding ∉ run) (kept : Kept template infos zIndex run row)
      (abuts : BackToBack position row) : Plays template infos zIndex position run row
  | padded {position next : α} {run rest : List String} {row later : List (Entry α)}
      (clips : Layer.padding ∉ run) (kept : Kept template infos zIndex run row)
      (abuts : BackToBack position row) (behind : Plays template infos zIndex next rest later) :
      Plays template infos zIndex position (run ++ Layer.padding :: rest) (row ++ later)

/-- Walking a layer plays it. -/
theorem plays_of_entriesFrom {position : α} {clips : List String} {entries : List (Entry α)}
    (walked : entriesFrom template infos everyFit total zIndex position clips = .ok entries) :
    Plays template infos zIndex position clips entries := by
  by_cases padded : Layer.padding ∈ clips
  · obtain ⟨run, rest, clips_eq, unpadded⟩ := List.eq_append_cons_of_mem padded
    rw [clips_eq] at walked ⊢
    obtain ⟨row, later, rfl, kept, abuts, _, goesOn⟩ :=
      entriesFrom_append keptByClips_true unpadded trivial walked
    rcases entriesFrom_cons_cases goesOn with ⟨_, behind, _, walkedRest⟩ | ⟨clipId, _⟩
    · exact .padded unpadded kept abuts (plays_of_entriesFrom walkedRest)
    · exact absurd rfl clipId
  · rw [← List.append_nil clips] at walked
    obtain ⟨row, later, rfl, kept, abuts, _, goesOn⟩ :=
      entriesFrom_append keptByClips_true padded trivial walked
    cases goesOn
    rw [List.append_nil]
    exact .run padded kept abuts
termination_by clips.length
decreasing_by
  -- what is behind the first padding of a layer is shorter than the layer
  simp only [clips_eq, List.length_append, List.length_cons]
  omega

/-- The entries of a resolved timeline are those of its layers, in their order, stacked. -/
theorem isStack_rows {timeline : Timeline α}
    (resolved : template.resolveTimeline infos = .ok timeline) :
    ∃ starts rows, Timeline.starts template = .ok starts ∧
      List.Forall₂ (fun placed row =>
        Plays template infos placed.2.zIndex placed.1 placed.2.clips row) (layers starts) rows ∧
      IsStack rows.flatten timeline.entries := by
  obtain ⟨resolution⟩ := exists_resolution resolved
  refine ⟨resolution.starts, resolution.rows, resolution.starts_eq, ?_, ?_⟩
  · exact (Result.mapM_eq_ok_iff.mp resolution.rows_eq).imp fun _ _ => plays_of_entriesFrom
  · rw [resolution.entries_eq]
    exact isStack_stacked _

/-! ## Rows on one level -/

/-- Two layers on one level above a third.  One of them plays the same clip twice, the other
leaves out a clip that fits, for which a padding leaves no room, and a still image at the end
of the output. -/
def levelTemplate : Template ℚ where
  clips :=
    [.plain "first" "first.mp4",
      .plain "second" "second.mp4",
      { Clip.plain "filler" "filler.mp4" with
        trim := ⟨some (.text "fit"), none, none, none⟩ },
      .plain "still" "still.png"]
  size := ⟨.null, .null, none, "black"⟩
  timeline :=
    [(.number 1, [⟨["first", "second", "first"], 1⟩]),
      (.number 0, [⟨["second", "PAD", "filler", "second", "still"], 1⟩, ⟨["first"], 0⟩])]
  preview := .null
  keypoints := []
  directory := ⟨"/", []⟩

/-- The lengths of the sources, of which the still image has none. -/
def levelInfos : MediaMap ℚ :=
  [("first", ⟨0, 0, 30, some 4, none, false, .video⟩),
    ("second", ⟨0, 0, 30, some 3, none, false, .video⟩),
    ("filler", ⟨0, 0, 30, some 8, none, false, .video⟩)]

theorem levelTemplate_isStack_rows :
    ∃ timeline, levelTemplate.resolveTimeline levelInfos = .ok timeline ∧
      timeline.total = 12 ∧
      ∃ starts rows, Timeline.starts levelTemplate = .ok starts ∧
        List.Forall₂ (fun placed row =>
            Plays levelTemplate levelInfos placed.2.zIndex placed.1 placed.2.clips row)
          (layers starts) rows ∧
        IsStack rows.flatten timeline.entries := by
  have evaluated : (levelTemplate.resolveTimeline levelInfos).toOption.map Timeline.total =
      some 12 := by
    decide +kernel
  obtain ⟨timeline, resolved, total_eq⟩ := exists_of_map_total evaluated
  exact ⟨timeline, resolved, total_eq, isStack_rows resolved⟩

end Montage.Timeline
