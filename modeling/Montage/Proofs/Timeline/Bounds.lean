import Montage.Proofs.Timeline.Layers

/-!
# Entries end with the output

Walking a row never compares an entry with the length of the output.  That none passes it
is an invariant of the walk: behind the cursor there is room for what the rest of the
row counts for.  Clips that fit are cut down to that room and need no invariant, which is
why the two ways of measuring the output can be treated alike.
-/

namespace Montage.Timeline

variable {template : Template ℚ} {infos : MediaMap ℚ} {everyFit : Bool}
variable {position total : ℚ} {id : String} {rest row : List String}

/-- There is room behind a position for what a row counted for where it was measured,
which may have been at an earlier position. -/
def HasRoom (template : Template ℚ) (infos : MediaMap ℚ) (total position : ℚ)
    (row : List String) : Prop :=
  ∃ measuredAt length, measuredAt ≤ position ∧
    counted template infos false measuredAt row = .ok length ∧ position + length ≤ total

/-- A row that is measured where it begins fits into its room. -/
theorem HasRoom.of_measured (room : HasRoom template infos total position row) {length : ℚ}
    (measured : counted template infos false position row = .ok length) :
    position + length ≤ total := by
  rcases room with ⟨measuredAt, before, order, measuredBefore, fits⟩
  have shrinks : length ≤ before := counted_antitone order measuredBefore measured
  linarith

/-- A padding leaves room for the row behind it. -/
theorem HasRoom.after_padding (room : HasRoom template infos total position (Layer.padding :: rest))
    {behind : ℚ} (measured : counted template infos false position rest = .ok behind) :
    HasRoom template infos total (afterPadding total position behind) rest := by
  have fits : position + behind ≤ total :=
    room.of_measured (counted_cons_padding.trans measured)
  rw [afterPadding_rat]
  split
  · exact ⟨position, behind, by linarith, measured, by linarith⟩
  · exact ⟨position, behind, le_rfl, measured, fits⟩

/-- There is room behind a clip for the row behind it, whether the clip counts or
not. -/
theorem HasRoom.after_clip (room : HasRoom template infos total position (id :: rest))
    (clipId : id ≠ Layer.padding) {clip : Clip ℚ} {timing : Timing ℚ}
    (found : template.clip id = .ok clip)
    (resolved : Timing.ofClip template.scope clip (infos.lookup id) position = .ok timing) :
    HasRoom template infos total (position + weight false clip timing) rest := by
  rcases room with ⟨measuredAt, _, order, measured, fits⟩
  rcases counted_cons_cases measured with
    ⟨pad, _⟩ | ⟨_, clip', before, later, found', resolvedBefore, behind, rfl⟩
  · exact absurd pad clipId
  · cases found.symm.trans found'
    rcases weight_of_le false order resolvedBefore resolved with ⟨shrinks, ends⟩
    exact ⟨_, later, ends, behind, by linarith⟩

/-- Room is never behind the end of the output. -/
theorem HasRoom.le_total (room : HasRoom template infos total position row)
    (known : RowKnown template infos row) : position ≤ total := by
  rcases room with ⟨_, length, _, measured, fits⟩
  have nonneg : 0 ≤ length := counted_nonneg known measured
  linarith

/-- What a walk keeps at every id: in the ordinary mode there is room for the rest of the
row, otherwise the rest of the row is made of clips that fit. -/
def Fits (template : Template ℚ) (infos : MediaMap ℚ) (everyFit : Bool) (total position : ℚ)
    (row : List String) : Prop :=
  match everyFit with
  | false => HasRoom template infos total position row
  | true => ∀ id ∈ row, id ≠ Layer.padding → ∀ clip, template.clip id = .ok clip →
      clip.isFit = true

theorem Fits.after_padding
    (fits : Fits template infos everyFit total position (Layer.padding :: rest)) {behind : ℚ}
    (measured : counted template infos everyFit position rest = .ok behind) :
    Fits template infos everyFit total (afterPadding total position behind) rest := by
  cases everyFit with
  | false => exact HasRoom.after_padding fits measured
  | true => exact fun other member => fits other (List.mem_cons_of_mem _ member)

/-- A clip that is left out gives nothing of the room away. -/
theorem Fits.after_leftOut (fits : Fits template infos everyFit total position (id :: rest))
    (known : RowKnown template infos (id :: rest)) (clipId : id ≠ Layer.padding)
    {clip : Clip ℚ} {timing : Timing ℚ} (found : template.clip id = .ok clip)
    (resolved : Timing.ofClip template.scope clip (infos.lookup id) position = .ok timing)
    (leftOut : played template infos everyFit total position clip timing rest = .ok none) :
    Fits template infos everyFit total position rest := by
  cases everyFit with
  | false =>
      rcases (known id List.mem_cons_self clipId clip found).duration_nonneg resolved with
        ⟨duration, duration_eq, _⟩
      have isFit : clip.isFit = true :=
        (leftOut_cases leftOut).resolve_right (by simp [duration_eq])
      have room := HasRoom.after_clip fits clipId found resolved
      rwa [weight, if_pos (by simp [isFit]), add_zero] at room
  | true => exact fun other member => fits other (List.mem_cons_of_mem id member)

/-- A clip that is played ends within the output and leaves room for the rest of the
row. -/
theorem Fits.after_played (fits : Fits template infos everyFit total position (id :: rest))
    (known : RowKnown template infos (id :: rest)) (clipId : id ≠ Layer.padding)
    {clip : Clip ℚ} {timing : Timing ℚ} {length start : ℚ} (found : template.clip id = .ok clip)
    (resolved : Timing.ofClip template.scope clip (infos.lookup id) position = .ok timing)
    (plays : played template infos everyFit total position clip timing rest =
      .ok (some (length, start))) :
    position + length ≤ total ∧
      Fits template infos everyFit total (position + length) rest := by
  rcases (known id List.mem_cons_self clipId clip found).duration_nonneg resolved with
    ⟨duration, duration_eq, nonneg⟩
  rcases played_cases plays with ⟨unfit, length_eq, _⟩ | ⟨_, behind, measured, kept⟩
  · cases everyFit with
    | false =>
        have room := HasRoom.after_clip fits clipId found resolved
        have weight_eq : weight false clip timing = length := by
          simp [weight, unfit, length_eq, duration_eq]
        rw [weight_eq] at room
        exact ⟨room.le_total known.tail, room⟩
    | true =>
        have isFit := fits id List.mem_cons_self clipId clip found
        rw [unfit] at isFit
        contradiction
  · rw [duration_eq, Option.getD_some] at kept
    have behindNonneg : 0 ≤ behind := counted_nonneg known.tail measured
    have ends : position + length + behind ≤ total ∧ 0 ≤ length := by
      rcases fitted_cases kept with ⟨exactly, longEnough⟩ | ⟨rfl, fitsIn⟩
      · exact ⟨exactly.le, Scalar.tolerance_rat_pos.le.trans longEnough⟩
      · exact ⟨fitsIn, nonneg⟩
    refine ⟨by linarith [ends.1], ?_⟩
    cases everyFit with
    | false => exact ⟨position, behind, by linarith [ends.2], measured, ends.1⟩
    | true => exact fun other member => fits other (List.mem_cons_of_mem id member)

/-- No entry of a row passes the end of the output. -/
theorem end_le_total_of_mem_row {zIndex : Int} {entries : List (Entry ℚ)}
    (known : RowKnown template infos row)
    (fits : Fits template infos everyFit total position row)
    (walked : entriesFrom template infos everyFit total zIndex position row = .ok entries) :
    ∀ entry ∈ entries, entry.startAt + entry.duration ≤ total := by
  induction row generalizing position entries with
  | nil =>
      cases walked
      simp
  | cons id rest ih =>
      rcases entriesFrom_cons_cases walked with
        ⟨rfl, behind, measured, walkedRest⟩ | ⟨clipId, clip, timing, found, resolved, walk⟩
      · exact ih known.tail (fits.after_padding measured) walkedRest
      · rcases walk with
          ⟨leftOut, walkedRest⟩ | ⟨length, start, later, plays, walkedRest, rfl⟩
        · exact ih known.tail (fits.after_leftOut known clipId found resolved leftOut) walkedRest
        · rcases fits.after_played known clipId found resolved plays with ⟨ends, fitsRest⟩
          intro entry member
          rcases List.mem_cons.mp member with rfl | member
          · exact ends
          · exact ih known.tail fitsRest walkedRest entry member

/-- All clips in the timeline of a template have known lengths. -/
def LengthsKnown (template : Template ℚ) (infos : MediaMap ℚ) : Prop :=
  ∀ group ∈ template.timeline, ∀ layer ∈ group.2, RowKnown template infos layer.clips

/-- Where all lengths are known, no entry of a resolved timeline passes the end of the
output. -/
theorem end_le_total {timeline : Timeline ℚ} (known : LengthsKnown template infos)
    (resolved : template.resolveTimeline infos = .ok timeline) :
    ∀ entry ∈ timeline.entries, entry.startAt + entry.duration ≤ timeline.total := by
  intro entry member
  obtain ⟨resolution⟩ := exists_resolution resolved
  rcases resolution.exists_layer_of_mem member with
    ⟨start, layer, entries, layerMem, walked, rowMem⟩
  rcases exists_of_mem_layers resolution.starts_eq layerMem with
    ⟨value, group, groupMem, inGroup, _⟩
  have rowKnown : RowKnown template infos layer.clips := known (value, group) groupMem layer inGroup
  have fits : Fits template infos resolution.everyFit timeline.total start layer.clips := by
    cases mode : resolution.everyFit with
    | false =>
        rcases resolution.measured_of_mem mode layerMem with ⟨length, measured, ends⟩
        exact ⟨start, length, le_rfl, measured, ends⟩
    | true =>
        intro id inLayer clipId clip found
        exact resolution.isFit_of_mem mode layerMem inLayer clipId found
  exact end_le_total_of_mem_row rowKnown fits walked entry rowMem

/-! ## A padded layer -/

/-- Below a clip of ten seconds lies a layer with everything that moves its cursor: a clip
that fits, a padding, a clip of given length, and one that stops at a time of the
output. -/
def paddedTemplate : Template ℚ where
  clips :=
    [.plain "long" "long.mp4",
      { Clip.plain "opening" "opening.mp4" with
        trim := ⟨some (.text "fit"), none, none, none⟩ },
      { Clip.plain "title" "title.png" with duration := .number 2 },
      { Clip.plain "closing" "closing.png" with
        trim := ⟨none, none, none, some (.number 9)⟩ }]
  size := ⟨.null, .null, none, "black"⟩
  timeline :=
    [(.number 0, [⟨["opening", "PAD", "title", "closing"], 0⟩, ⟨["long"], 1⟩])]
  preview := .null
  keypoints := []
  directory := ⟨"/", []⟩

/-- The lengths of the two sources that are measured. -/
def paddedInfos : MediaMap ℚ :=
  [("long", ⟨0, 0, 30, some 10, none, false, .video⟩),
    ("opening", ⟨0, 0, 30, some 8, none, false, .video⟩)]

theorem paddedTemplate_lengthsKnown : LengthsKnown paddedTemplate paddedInfos := by
  intro group groupMem layer layerMem id idMem clipId clip found
  simp only [paddedTemplate, List.mem_singleton] at groupMem
  subst groupMem
  simp only [List.mem_cons, List.not_mem_nil, or_false] at layerMem
  rcases layerMem with rfl | rfl
  · simp only [List.mem_cons, List.not_mem_nil, or_false] at idMem
    rcases idMem with rfl | rfl | rfl | rfl
    · cases found
      exact ⟨.inl rfl, by rintro _ ⟨⟩⟩
    · exact absurd rfl clipId
    · cases found
      refine ⟨.inr (.inl rfl), ?_⟩
      rintro _ ⟨⟩
      norm_num
    · cases found
      exact ⟨.inr (.inr rfl), by rintro _ ⟨⟩⟩
  · simp only [List.mem_cons, List.not_mem_nil, or_false] at idMem
    subst idMem
    cases found
    exact ⟨.inl rfl, by rintro _ ⟨⟩⟩

theorem paddedTemplate_end_le_total :
    ∃ timeline, paddedTemplate.resolveTimeline paddedInfos = .ok timeline ∧
      timeline.total = 10 ∧
      ∀ entry ∈ timeline.entries, entry.startAt + entry.duration ≤ timeline.total := by
  have total_eq : (paddedTemplate.resolveTimeline paddedInfos).toOption.map Timeline.total =
      some 10 := by
    decide +kernel
  cases resolved : paddedTemplate.resolveTimeline paddedInfos with
  | error fault =>
      rw [resolved] at total_eq
      cases total_eq
  | ok timeline =>
      rw [resolved] at total_eq
      exact ⟨timeline, rfl, Option.some.inj total_eq,
        end_le_total paddedTemplate_lengthsKnown resolved⟩

end Montage.Timeline
