import Montage.Proofs.Timeline.Runs

/-!
# Padded layers end with the output

A layer with a padding is justified: what is in front of the first padding begins with the
layer, and what is behind it ends with the output.  The padding finds out how much of the
rest of the layer counts, which is exactly what plays behind it.  From there on the cursor
and the rest of the layer add up to the length of the output, so that no clip that fits
has any time left and no later padding has anything to fill.  In front of the padding they
add up to no more, whatever the clips that fit have taken for themselves.
-/

namespace Montage.Timeline

variable {template : Template ℚ} {infos : MediaMap ℚ} {zIndex : Int} {id : String}
variable {position other total length : ℚ} {rest row : List String} {entries : List (Entry ℚ)}

/-! ## Clips with lengths of their own -/

/-- A clip has a length of its own: its source has one or one is given, and the clip does
not stop at a time of the output. -/
structure HasOwnLength (clip : Clip ℚ) (info : Option (MediaInfo ℚ)) : Prop where
  known : (info.bind MediaInfo.duration).isSome ∨ clip.duration.isNull = false
  unstopped : clip.trim.stopAtOutput.isGiven = false

theorem HasOwnLength.exists_duration {clip : Clip ℚ} {info : Option (MediaInfo ℚ)}
    {timing : Timing ℚ} (own : HasOwnLength clip info)
    (resolved : Timing.ofClip template.scope clip info position = .ok timing) :
    ∃ duration, timing.duration = some duration := by
  by_contra unknown
  have lacks := Timing.lacksLength_of_ofClip resolved
    (Option.eq_none_iff_forall_ne_some.mpr fun duration eq => unknown ⟨duration, eq⟩)
  rcases own.known with measured | given
  · simp [lacks.unmeasured] at measured
  · simp [lacks.ungiven] at given

/-- All clips of a row have lengths of their own. -/
def RowMeasured (template : Template ℚ) (infos : MediaMap ℚ) (row : List String) : Prop :=
  ∀ id ∈ row, id ≠ Layer.padding → ∀ clip, template.clip id = .ok clip →
    HasOwnLength clip (infos.lookup id)

theorem RowMeasured.tail (own : RowMeasured template infos (id :: rest)) :
    RowMeasured template infos rest :=
  fun other member => own other (List.mem_cons_of_mem id member)

/-- A row of clips with lengths of their own counts for the same wherever it begins. -/
theorem RowMeasured.counted_eq (own : RowMeasured template infos row) (position other : ℚ) :
    counted template infos false position row = counted template infos false other row := by
  induction row generalizing position other with
  | nil => rfl
  | cons id rest ih =>
      by_cases pad : id = Layer.padding
      · subst pad
        rw [counted_cons_padding, counted_cons_padding]
        exact ih own.tail position other
      · rw [counted_cons_clip pad, counted_cons_clip pad]
        cases found : template.clip id with
        | error fault => rw [Result.error_bind, Result.error_bind]
        | ok clip =>
            have unstopped := (own id List.mem_cons_self pad clip found).unstopped
            rw [Result.ok_bind, Result.ok_bind,
              Timing.ofClip_at_other unstopped position other]
            congr 1
            funext timing
            rw [ih own.tail (position + weight false clip timing)
              (other + weight false clip timing)]

/-- Behind a clip with a length of its own there is left what the row counts for without
it. -/
theorem counted_tail (own : RowMeasured template infos (id :: rest))
    (clipId : id ≠ Layer.padding) {clip : Clip ℚ} {timing : Timing ℚ}
    (found : template.clip id = .ok clip)
    (resolved : Timing.ofClip template.scope clip (infos.lookup id) position = .ok timing)
    (measured : counted template infos false position (id :: rest) = .ok length) (other : ℚ) :
    counted template infos false other rest = .ok (length - weight false clip timing) := by
  rcases counted_cons_cases measured with
    ⟨pad, _⟩ | ⟨_, clip', timing', later, found', resolved', behind, rfl⟩
  · exact absurd pad clipId
  · cases found.symm.trans found'
    cases resolved.symm.trans resolved'
    rw [own.tail.counted_eq other (position + weight false clip timing), behind,
      add_sub_cancel_left]

/-! ## In front of a padding -/

/-- What counts of a row has room behind a position. -/
structure Room (template : Template ℚ) (infos : MediaMap ℚ) (total position : ℚ)
    (row : List String) : Prop where
  own : RowMeasured template infos row
  fits : ∃ length, counted template infos false position row = .ok length ∧
    position + length ≤ total

/-- Clips leave room for the clips behind them: those that do not fit take what they count
for, and those that fit take no more than there is. -/
theorem keptByClips_room :
    KeptByClips template infos false total (Room template infos total) := by
  intro position id rest clip timing clipId found resolved room
  obtain ⟨own, length, measured, fits⟩ := room
  obtain ⟨duration, duration_eq⟩ :=
    (own id List.mem_cons_self clipId clip found).exists_duration resolved
  have behind := counted_tail own clipId found resolved measured
  constructor
  · intro leftOut
    have isFit : clip.isFit = true :=
      (leftOut_cases leftOut).resolve_right (by simp [duration_eq])
    have weight_eq : weight false clip timing = 0 := by simp [weight, isFit]
    refine ⟨own.tail, length, ?_, fits⟩
    rw [behind, weight_eq, sub_zero]
  · intro taken start plays
    rcases played_cases plays with ⟨unfit, rfl, _⟩ | ⟨isFit, later, laterMeasured, kept⟩
    · have weight_eq : weight false clip timing = duration := by
        simp [weight, unfit, duration_eq]
      refine ⟨own.tail, length - duration, ?_, ?_⟩
      · rw [behind, weight_eq]
      · rw [duration_eq, Option.getD_some]
        linarith
    · refine ⟨own.tail, later, ?_, ?_⟩
      · rw [own.tail.counted_eq _ position, laterMeasured]
      · rcases fitted_cases kept with ⟨exactly, _⟩ | ⟨_, fitsIn⟩
        · exact exactly.le
        · exact fitsIn

/-! ## Behind a padding -/

/-- A row that ends with the output, told together with the cursor: paddings leave it where
it is, clips that fit are dropped, all other clips play as long as they last, and in the
end the cursor is at the end of the output. -/
inductive Closes (template : Template ℚ) (infos : MediaMap ℚ) (total : ℚ) (zIndex : Int) :
    ℚ → List String → List (Entry ℚ) → Prop
  | nil : Closes template infos total zIndex total [] []
  | padding {position : ℚ} {rest : List String} {row : List (Entry ℚ)}
      (behind : Closes template infos total zIndex position rest row) :
      Closes template infos total zIndex position (Layer.padding :: rest) row
  | dropped {position : ℚ} {id : String} {clip : Clip ℚ} {rest : List String}
      {row : List (Entry ℚ)} (clipId : id ≠ Layer.padding) (found : template.clip id = .ok clip)
      (isFit : clip.isFit = true) (behind : Closes template infos total zIndex position rest row) :
      Closes template infos total zIndex position (id :: rest) row
  | played {position duration : ℚ} {id : String} {clip : Clip ℚ} {timing : Timing ℚ}
      {rest : List String} {row : List (Entry ℚ)} (clipId : id ≠ Layer.padding)
      (found : template.clip id = .ok clip) (unfit : clip.isFit = false)
      (resolved : Timing.ofClip template.scope clip (infos.lookup id) position = .ok timing)
      (lasts : timing.duration = some duration)
      (behind : Closes template infos total zIndex (position + duration) rest row) :
      Closes template infos total zIndex position (id :: rest)
        (⟨id, position, duration, timing.trimStart, timing.speed, zIndex⟩ :: row)

namespace Closes

variable {row : List (Entry ℚ)}

theorem backToBack (closes : Closes template infos total zIndex position rest row) :
    BackToBack position row := by
  induction closes with
  | nil => trivial
  | padding _ ih => exact ih
  | dropped _ _ _ _ ih => exact ih
  | played _ _ _ _ _ _ ih => exact ⟨rfl, ih⟩

/-- What plays of the row ends with the output. -/
theorem endFrom_eq (closes : Closes template infos total zIndex position rest row) :
    endFrom position row = total := by
  induction closes with
  | nil => rfl
  | padding _ ih => exact ih
  | dropped _ _ _ _ ih => exact ih
  | played _ _ _ _ _ _ ih => exact ih

end Closes

/-- Where what counts of a row takes up exactly the rest of the output, the row ends with
the output. -/
theorem closes_of_entriesFrom (own : RowMeasured template infos row)
    (measured : counted template infos false position row = .ok length)
    (taken : position + length = total)
    (walked : entriesFrom template infos false total zIndex position row = .ok entries) :
    Closes template infos total zIndex position row entries := by
  induction row generalizing position length entries with
  | nil =>
      cases measured
      cases walked
      rw [add_zero] at taken
      subst taken
      exact .nil
  | cons id rest ih =>
      rcases entriesFrom_cons_cases walked with
        ⟨rfl, behind, restMeasured, walkedRest⟩ | ⟨clipId, clip, timing, found, resolved, walk⟩
      · rw [counted_cons_padding] at measured
        cases measured.symm.trans restMeasured
        rw [afterPadding_of_taken taken] at walkedRest
        exact .padding (ih own.tail restMeasured taken walkedRest)
      · obtain ⟨duration, duration_eq⟩ :=
          (own id List.mem_cons_self clipId clip found).exists_duration resolved
        have behind := counted_tail own clipId found resolved measured
        rcases walk with ⟨leftOut, walkedRest⟩ | ⟨kept, start, later, plays, walkedRest, rfl⟩
        · have isFit : clip.isFit = true :=
            (leftOut_cases leftOut).resolve_right (by simp [duration_eq])
          have weight_eq : weight false clip timing = 0 := by simp [weight, isFit]
          have restMeasured := behind position
          rw [weight_eq, sub_zero] at restMeasured
          exact .dropped clipId found isFit (ih own.tail restMeasured taken walkedRest)
        · rcases played_cases plays with ⟨unfit, rfl, rfl⟩ | ⟨isFit, needed, restMeasured, room⟩
          · have weight_eq : weight false clip timing = duration := by
              simp [weight, unfit, duration_eq]
            have restMeasured := behind (position + duration)
            rw [weight_eq] at restMeasured
            rw [duration_eq, Option.getD_some] at walkedRest ⊢
            exact .played clipId found unfit resolved duration_eq
              (ih own.tail restMeasured (by linarith) walkedRest)
          · -- the row behind a clip that fits takes up all the room that there is
            have weight_eq : weight false clip timing = 0 := by simp [weight, isFit]
            have same := behind position
            rw [weight_eq, sub_zero] at same
            cases same.symm.trans restMeasured
            rw [fitted_eq_none taken] at room
            cases room

/-! ## Layers -/

/-- How a layer with a padding plays.  What is in front of the padding plays back to back
from the beginning of the layer, and the padding does not move the cursor back.  Behind it
every clip that does not fit plays, back to back, and the last one ends with the output. -/
structure Justifies (template : Template ℚ) (infos : MediaMap ℚ) (total : ℚ) (zIndex : Int)
    (start next : ℚ) (before after : List String) (opening closing : List (Entry ℚ)) :
    Prop where
  kept : Kept template infos zIndex before opening
  opens : BackToBack start opening
  forward : endFrom start opening ≤ next
  closes : Closes template infos total zIndex next after closing
  abuts : BackToBack next closing
  last_endAt : ∀ last ∈ closing.getLast?, last.endAt = total

/-- Walking a layer with a padding justifies it, if what counts of the layer has room in the
output. -/
theorem exists_justifies {before after : List String} {start : ℚ}
    (unpadded : Layer.padding ∉ before)
    (room : Room template infos total start (before ++ Layer.padding :: after))
    (walked : entriesFrom template infos false total zIndex start
      (before ++ Layer.padding :: after) = .ok entries) :
    ∃ opening closing next, entries = opening ++ closing ∧
      Justifies template infos total zIndex start next before after opening closing := by
  obtain ⟨opening, closing, rfl, kept, opens, ⟨own, length, measured, fits⟩, goesOn⟩ :=
    entriesFrom_append keptByClips_room unpadded room walked
  rw [counted_cons_padding] at measured
  rcases entriesFrom_cons_cases goesOn with ⟨_, behind, measured', walkedRest⟩ | ⟨clipId, _⟩
  · cases measured.symm.trans measured'
    have moves : afterPadding total (endFrom start opening) length = total - length := by
      have tolerance_pos := Scalar.tolerance_rat_pos
      rw [afterPadding_rat, if_pos (by linarith)]
    rw [moves] at walkedRest
    have closes : Closes template infos total zIndex (total - length) after closing := by
      have restMeasured : counted template infos false (total - length) after = .ok length := by
        rw [own.tail.counted_eq _ (endFrom start opening), measured]
      exact closes_of_entriesFrom own.tail restMeasured (by ring) walkedRest
    refine ⟨opening, closing, total - length, rfl, kept, opens, by linarith, closes,
      closes.backToBack, fun last member => ?_⟩
    rw [closes.backToBack.last_endAt last member, closes.endFrom_eq]
  · exact absurd rfl clipId

/-- Unless all clips fit, a resolved timeline justifies every padded layer of clips with
lengths of their own. -/
theorem justifies_rows {timeline : Timeline ℚ} (unfit : HasUnfitClip template)
    (resolved : template.resolveTimeline infos = .ok timeline) :
    ∃ starts rows, Timeline.starts template = .ok starts ∧
      IsStack rows.flatten timeline.entries ∧
      List.Forall₂ (fun placed row =>
        RowMeasured template infos placed.2.clips →
        ∀ before after, placed.2.clips = before ++ Layer.padding :: after →
          Layer.padding ∉ before →
          ∃ opening closing next, row = opening ++ closing ∧
            Justifies template infos timeline.total placed.2.zIndex placed.1 next before after
              opening closing)
        (layers starts) rows := by
  obtain ⟨resolution⟩ := exists_resolution resolved
  have mode := resolution.everyFit_eq_false_iff.mpr unfit
  refine ⟨resolution.starts, resolution.rows, resolution.starts_eq, ?_, ?_⟩
  · rw [resolution.entries_eq]
    exact isStack_stacked _
  · have walked := (List.forall₂_and_left _ _).mpr
      ⟨fun _ member => member, Result.mapM_eq_ok_iff.mp resolution.rows_eq⟩
    refine walked.imp ?_
    rintro ⟨start, layer⟩ row ⟨placed, walked⟩ own before after clips_eq unpadded
    obtain ⟨length, measured, fits⟩ := resolution.measured_of_mem mode placed
    dsimp only at own clips_eq walked
    rw [mode] at walked
    rw [clips_eq] at own measured walked
    exact exists_justifies unpadded ⟨own, length, measured, fits⟩ walked

/-! ## A layer with two paddings -/

/-- Beside a clip of ten seconds lies a layer with two paddings, and with clips that fit in
front of the first of them and between them. -/
def justifiedTemplate : Template ℚ where
  clips :=
    [.plain "long" "long.mp4",
      .plain "short" "short.mp4",
      { Clip.plain "title" "title.mp4" with
        trim := ⟨none, some (.text "fit"), none, none⟩ }]
  size := ⟨.null, .null, none, "black"⟩
  timeline :=
    [(.number 0, [⟨["title", "PAD", "short", "title", "PAD", "short"], 0⟩, ⟨["long"], 0⟩])]
  preview := .null
  keypoints := []
  directory := ⟨"/", []⟩

/-- The lengths of its sources. -/
def justifiedInfos : MediaMap ℚ :=
  [("long", ⟨0, 0, 30, some 10, none, false, .video⟩),
    ("short", ⟨0, 0, 30, some 2, none, false, .video⟩),
    ("title", ⟨0, 0, 30, some 1, none, false, .video⟩)]

theorem justifiedTemplate_hasUnfitClip : HasUnfitClip justifiedTemplate :=
  ⟨_, List.mem_cons_self, ⟨["long"], 0⟩, by simp, "long", by simp, by simp [Layer.padding], _, rfl,
    rfl⟩

theorem justifiedTemplate_rowMeasured : RowMeasured justifiedTemplate justifiedInfos
    ["title", "PAD", "short", "title", "PAD", "short"] := by
  intro id member clipId clip found
  simp only [List.mem_cons, List.not_mem_nil, or_false] at member
  rcases member with rfl | rfl | rfl | rfl | rfl | rfl <;> cases found
  all_goals exact ⟨.inl rfl, rfl⟩

/-- The title plays for its second, and the four seconds behind the first padding end with the
output. -/
theorem justifiedTemplate_justifies :
    ∃ timeline, justifiedTemplate.resolveTimeline justifiedInfos = .ok timeline ∧
      timeline.total = 10 ∧
      ∃ row other, IsStack (row ++ other) timeline.entries ∧
        ∃ opening closing next, row = opening ++ closing ∧
          Justifies justifiedTemplate justifiedInfos timeline.total 0 0 next ["title"]
            ["short", "title", "PAD", "short"] opening closing := by
  have evaluated : (justifiedTemplate.resolveTimeline justifiedInfos).toOption.map
      Timeline.total = some 10 := by
    decide +kernel
  obtain ⟨timeline, resolved, total_eq⟩ := exists_of_map_total evaluated
  obtain ⟨starts, rows, starts_eq, isStack, justified⟩ :=
    justifies_rows justifiedTemplate_hasUnfitClip resolved
  cases starts_eq
  obtain ⟨row, others, first, _, rfl⟩ := List.forall₂_cons_left_iff.mp justified
  exact ⟨timeline, resolved, total_eq, row, others.flatten, isStack,
    first justifiedTemplate_rowMeasured ["title"] ["short", "title", "PAD", "short"] rfl
      (by decide)⟩

end Montage.Timeline
