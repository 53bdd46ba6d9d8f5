import Montage.Proofs.Template.Clips
import Montage.Proofs.Timeline.Layers

/-!
# The timeline of a template without one

A template without a timeline has a layer for each clip, all of them beginning with the output
and stacked in the order of the clips.  So every clip is alone in its row, and nothing is in
front of it or behind it.  Two things leave its row empty.  The id of a clip may be the word for
a padding, and then the row is read as a padding.  And an output shorter than the tolerance has
no time for a clip that fits or that lacks a length.  Every other clip plays from the beginning,
for its own length if it does not fit and to the end of the output if it has none.
-/

namespace Montage

namespace Timing

instance {α : Type} [DecidableEq α] (clip : Clip α) (info : Option (MediaInfo α)) :
    Decidable (LacksLength clip info) :=
  decidable_of_iff (info.bind MediaInfo.duration = none ∧ clip.duration.isNull = true ∧
      clip.trim.stopAtOutput.isGiven = false)
    ⟨fun ⟨unmeasured, ungiven, unstopped⟩ => ⟨unmeasured, ungiven, unstopped⟩,
      fun lacks => ⟨lacks.unmeasured, lacks.ungiven, lacks.unstopped⟩⟩

end Timing

namespace Timeline

variable {template : Template ℚ} {infos : MediaMap ℚ} {everyFit : Bool} {total : ℚ}
variable {clip : Clip ℚ} {timing : Timing ℚ} {index : ℕ} {row : List (Entry ℚ)}

/-! ## A clip that is alone in its row -/

/-- A clip that is alone in a row is played: its id is not the word for a padding, and if the
output is shorter than the tolerance, the clip has a length and does not fit. -/
def IsKept (infos : MediaMap ℚ) (total : ℚ) (clip : Clip ℚ) : Prop :=
  clip.id ≠ Layer.padding ∧
    (Scalar.tolerance ≤ total ∨
      clip.isFit = false ∧ ¬Timing.LacksLength clip (infos.lookup clip.id))

instance (infos : MediaMap ℚ) (total : ℚ) (clip : Clip ℚ) : Decidable (IsKept infos total clip) :=
  inferInstanceAs (Decidable (_ ∧ _))

/-- For how long a clip plays that is alone in a row: for its own length, unless it fits and is
longer than the output, and to the end of the output without one. -/
def lengthAlone (total : ℚ) (clip : Clip ℚ) (timing : Timing ℚ) : ℚ :=
  match timing.duration with
  | none => total
  | some duration =>
      if clip.isFit = true ∧ total < duration + Scalar.tolerance then total else duration

/-- An entry plays a clip, given with its place among the clips, from the beginning of the output
on and alone in its row. -/
structure PlaysAlone (template : Template ℚ) (infos : MediaMap ℚ) (total : ℚ)
    (placed : Clip ℚ × ℕ) (entry : Entry ℚ) : Prop where
  clipId_eq : entry.clipId = placed.1.id
  startAt_eq : entry.startAt = 0
  zIndex_eq : entry.zIndex = placed.2
  lasts : ∃ timing,
    Timing.ofClip template.scope placed.1 (infos.lookup placed.1.id) 0 = .ok timing ∧
      entry.duration = lengthAlone total placed.1 timing

/-- A clip that fits is alone in a row from the beginning to the end of the output, or it ends
before. -/
theorem exists_fitted_alone (total duration : ℚ) (endFits : Bool) (timing : Timing ℚ) :
    ∃ start, fitted total 0 0 duration endFits timing =
      if total < Scalar.tolerance then none
      else some (if total < duration + Scalar.tolerance then total else duration, start) := by
  rw [fitted_rat, sub_zero, sub_zero]
  by_cases longer : total < duration + Scalar.tolerance
  · rw [if_pos longer, if_pos longer]
    exact ⟨_, rfl⟩
  · rw [if_neg longer, if_neg longer]
    exact ⟨_, rfl⟩

/-- What is made of a clip that is alone in a row. -/
theorem exists_played_alone (template : Template ℚ) (infos : MediaMap ℚ) (everyFit : Bool)
    (total : ℚ) (clip : Clip ℚ) (timing : Timing ℚ) :
    ∃ start, played template infos everyFit total 0 clip timing [] =
      .ok (if total < Scalar.tolerance ∧ (clip.isFit = true ∨ timing.duration = none) then none
        else some (lengthAlone total clip timing, start)) := by
  have late : Scalar.leApprox total 0 = decide (total < Scalar.tolerance) := by
    rw [Bool.eq_iff_iff, Scalar.leApprox_rat_iff, decide_eq_true_iff, zero_sub, neg_lt_neg_iff]
  have measured : counted template infos everyFit 0 [] = .ok 0 := rfl
  obtain ⟨start, kept⟩ := exists_fitted_alone total (timing.duration.getD total)
    clip.trim.ending.isFit timing
  have reaches : total < total + Scalar.tolerance :=
    lt_add_of_pos_right total Scalar.tolerance_rat_pos
  simp only [played, sub_zero, measured, Result.ok_bind, kept, lengthAlone]
  by_cases short : total < Scalar.tolerance <;> cases fits : clip.isFit <;>
    cases known : timing.duration <;> simp [short, late, reaches]

/-- The row of a clip that is alone in it. -/
theorem row_alone (found : template.clip clip.id = .ok clip)
    (walked : entriesFrom template infos everyFit total index 0 [clip.id] = .ok row) :
    (¬IsKept infos total clip ∧ row = []) ∨
      (IsKept infos total clip ∧
        ∃ entry, row = [entry] ∧ PlaysAlone template infos total (clip, index) entry) := by
  rcases entriesFrom_cons_cases walked with
    ⟨isPadding, _, _, walkedRest⟩ | ⟨notPadding, _, timing, sameFound, resolved, walk⟩
  · cases walkedRest
    exact .inl ⟨fun kept => kept.1 isPadding, rfl⟩
  · cases found.symm.trans sameFound
    have unknown : timing.duration = none ↔
        Timing.LacksLength clip (infos.lookup clip.id) :=
      ⟨Timing.lacksLength_of_ofClip resolved, fun lacks => lacks.duration_eq_none resolved⟩
    have kept_iff : IsKept infos total clip ↔
        ¬(total < Scalar.tolerance ∧ (clip.isFit = true ∨ timing.duration = none)) := by
      rw [IsKept, unknown, not_and_or, not_lt, not_or, Bool.not_eq_true]
      exact and_iff_right notPadding
    obtain ⟨start, alone⟩ := exists_played_alone template infos everyFit total clip timing
    rcases walk with ⟨leftOut, walkedRest⟩ | ⟨length, _, later, plays, walkedRest, rfl⟩
    · rw [leftOut] at alone
      cases walkedRest
      refine .inl ⟨fun kept => ?_, rfl⟩
      rw [if_neg (kept_iff.mp kept)] at alone
      cases alone
    · rw [plays] at alone
      cases walkedRest
      split at alone
      · cases alone
      · rename_i kept
        cases alone
        exact .inr ⟨kept_iff.mpr kept, _, rfl, rfl, rfl, rfl, timing, resolved, rfl⟩

/-! ## One layer for each clip -/

theorem ofValue_beginning (scope : Scope ℚ) :
    Duration.ofValue scope (.text Template.beginning) = .ok 0 := by
  have read : Duration.read (α := ℚ) Template.beginning = .ok (.time "00:00:00".toList) := by
    with_unfolding_all rfl
  have seconds : Duration.seconds (α := ℚ) "00:00:00".toList = .ok 0 := by
    with_unfolding_all rfl
  rw [Duration.ofValue, read, Result.ok_bind, Duration.evaluate, seconds, Result.lift_ok]

/-- The layers of a template without a timeline begin with the output. -/
theorem layers_of_defaultTimeline {starts : Starts ℚ}
    (untimed : template.timeline = Template.defaultTimeline template.clips)
    (resolved : Timeline.starts template = .ok starts) :
    layers starts = template.clips.zipIdx.map fun (clip, index) => (0, ⟨[clip.id], index⟩) := by
  rw [starts_eq_ok_iff, untimed, Template.defaultTimeline] at resolved
  obtain ⟨⟨start, group⟩, _, ⟨seconds, same⟩, rest, rfl⟩ := List.forall₂_cons_left_iff.mp resolved
  cases rest
  cases (ofValue_beginning template.scope).symm.trans seconds
  subst same
  simp [layers, Function.comp_def]

/-- Rows of clips that are each alone in one are the entries of those that are kept. -/
theorem playsAlone_flatten {placed : List (Clip ℚ × ℕ)} {rows : List (List (Entry ℚ))}
    (alone : List.Forall₂ (fun placed row =>
      (¬IsKept infos total placed.1 ∧ row = []) ∨
        (IsKept infos total placed.1 ∧
          ∃ entry, row = [entry] ∧ PlaysAlone template infos total placed entry)) placed rows) :
    List.Forall₂ (PlaysAlone template infos total)
      (placed.filter fun placed => IsKept infos total placed.1) rows.flatten := by
  induction alone with
  | nil => exact .nil
  | cons first _ ih =>
      rcases first with ⟨leftOut, rfl⟩ | ⟨kept, entry, rfl, plays⟩
      · rw [List.filter_cons_of_neg (by simpa using leftOut)]
        exact ih
      · rw [List.filter_cons_of_pos (by simpa using kept)]
        exact .cons plays ih

/-- Entries of clips in the order of their places are in the order of the stack. -/
theorem pairwise_zIndex {placed : List (Clip ℚ × ℕ)} {entries : List (Entry ℚ)}
    (plays : List.Forall₂ (PlaysAlone template infos total) placed entries)
    (ordered : placed.Pairwise fun below above => below.2 ≤ above.2) :
    entries.Pairwise fun below above => below.zIndex ≤ above.zIndex := by
  induction plays with
  | nil => exact .nil
  | @cons first entry placed entries plays others ih =>
      rw [List.pairwise_cons] at ordered
      refine .cons (fun above aboveMem => ?_) (ih ordered.2)
      obtain ⟨other, otherMem, otherPlays⟩ := Result.exists_of_forall₂_of_mem others.flip aboveMem
      rw [plays.zIndex_eq, otherPlays.zIndex_eq]
      exact Int.ofNat_le.mpr (ordered.1 other otherMem)

/-- The entries of a template without a timeline are in the rows of its clips. -/
theorem playsAlone_of_resolution {timeline : Timeline ℚ}
    (distinct : (template.clips.map Clip.id).Nodup)
    (untimed : template.timeline = Template.defaultTimeline template.clips)
    (resolution : Resolution template infos timeline) :
    List.Forall₂ (PlaysAlone template infos timeline.total)
      (template.clips.zipIdx.filter fun placed => IsKept infos timeline.total placed.1)
      timeline.entries := by
  have walked := Result.mapM_eq_ok_iff.mp resolution.rows_eq
  rw [layers_of_defaultTimeline untimed resolution.starts_eq, List.forall₂_map_left_iff] at walked
  have found : ∀ placed ∈ template.clips.zipIdx, template.clip placed.1.id = .ok placed.1 :=
    fun placed member => Template.clip_of_mem distinct (List.fst_mem_of_mem_zipIdx member)
  have alone := playsAlone_flatten
    (((List.forall₂_and_left _ _).mpr ⟨found, walked⟩).imp fun _ _ row => row_alone row.1 row.2)
  have places : (template.clips.zipIdx.map Prod.snd).Pairwise (· ≤ ·) := by
    rw [List.zipIdx_map_snd]
    exact List.pairwise_le_range' 1
  have ordered := pairwise_zIndex alone ((List.pairwise_map.mp places).filter _)
  rw [resolution.entries_eq, stacked, List.mergeSort_of_pairwise (ordered.imp decide_eq_true)]
  exact alone

/-- A template without a timeline plays the clips that are kept, each of them once, in their
order, and from the beginning of the output on.  So it plays every clip exactly if all of them
are kept. -/
theorem playsAlone_of_untimed {directory : Path} {value : Value ℚ} {timeline : Timeline ℚ}
    (accepted : Template.read directory value = .ok template)
    (untimed : value.get "timeline" = .null)
    (resolved : template.resolveTimeline infos = .ok timeline) :
    List.Forall₂ (PlaysAlone template infos timeline.total)
        (template.clips.zipIdx.filter fun placed => IsKept infos timeline.total placed.1)
        timeline.entries ∧
      (timeline.entries.map Entry.clipId = template.clips.map Clip.id ↔
        ∀ clip ∈ template.clips, IsKept infos timeline.total clip) := by
  obtain ⟨resolution⟩ := exists_resolution resolved
  obtain ⟨_, _, timelineRead⟩ := Template.parts_of_read accepted
  rw [untimed] at timelineRead
  have alone := playsAlone_of_resolution (Template.nodup_ids accepted)
    (Except.ok.inj timelineRead).symm resolution
  have clips_eq : template.clips.zipIdx.map Prod.fst = template.clips :=
    List.zipIdx_map_fst 0 template.clips
  have allKept : (∀ clip ∈ template.clips, IsKept infos timeline.total clip) ↔
      ∀ placed ∈ template.clips.zipIdx, decide (IsKept infos timeline.total placed.1) = true := by
    conv_lhs => rw [← clips_eq]
    simp only [List.forall_mem_map, decide_eq_true_iff]
  refine ⟨alone, ?_⟩
  rw [allKept]
  constructor
  · intro same
    rw [← List.length_filter_eq_length_iff, alone.length_eq, List.length_zipIdx]
    simpa using congrArg List.length same
  · intro kept
    rw [List.filter_eq_self.mpr kept] at alone
    rw [← clips_eq, List.map_map, ← List.forall₂_eq_eq_eq, List.forall₂_map_left_iff,
      List.forall₂_map_right_iff]
    exact alone.flip.imp fun _ _ plays => plays.clipId_eq

/-! ## A clip that is named like a padding -/

/-- Four clips: one with the id of a padding, one of four seconds, a still image, and one of six
seconds that fits. -/
def untimedSource : Value ℚ :=
  .map [(.text "clips", .list
    [.map [(.text "id", .text "PAD"), (.text "file", .text "pause.mp4")],
      .map [(.text "id", .text "main"), (.text "file", .text "main.mp4")],
      .map [(.text "file", .text "still.png")],
      .map [(.text "file", .text "long.mp4"),
        (.text "trim", .map [(.text "end", .text "fit")])]])]

/-- The template that is read from it. -/
def untimedTemplate : Template ℚ where
  clips :=
    [.plain "PAD" "/pause.mp4", .plain "main" "/main.mp4", .plain "CLIP_2" "/still.png",
      { Clip.plain "CLIP_3" "/long.mp4" with
        trim := ⟨none, some (.text "fit"), none, none⟩ }]
  size := ⟨.text "100%", .text "100%", some "PAD", "black"⟩
  timeline := [(.text "00:00:00",
    [⟨["PAD"], 0⟩, ⟨["main"], 1⟩, ⟨["CLIP_2"], 2⟩, ⟨["CLIP_3"], 3⟩])]
  preview := .text "00:00:00"
  keypoints := []
  directory := ⟨"/", []⟩

/-- The lengths of its sources. -/
def untimedInfos : MediaMap ℚ :=
  [("PAD", ⟨0, 0, 30, some 5, none, false, .video⟩),
    ("main", ⟨0, 0, 30, some 4, none, false, .video⟩),
    ("CLIP_2", ⟨0, 0, 60, none, none, false, .image⟩),
    ("CLIP_3", ⟨0, 0, 30, some 6, none, false, .video⟩)]

theorem read_untimedSource : Template.read ⟨"/", []⟩ untimedSource = .ok untimedTemplate := by
  with_unfolding_all rfl

theorem exists_untimedTimeline : ∃ timeline,
    untimedTemplate.resolveTimeline untimedInfos = .ok timeline ∧ timeline.total = 4 ∧
      timeline.entries =
        [⟨"main", 0, 4, 0, 1, 1⟩, ⟨"CLIP_2", 0, 4, 0, 1, 2⟩, ⟨"CLIP_3", 0, 4, 0, 1, 3⟩] := by
  let entries : List (Entry ℚ) :=
    [⟨"main", 0, 4, 0, 1, 1⟩, ⟨"CLIP_2", 0, 4, 0, 1, 2⟩, ⟨"CLIP_3", 0, 4, 0, 1, 3⟩]
  let starts : Starts ℚ := [(0, [⟨["PAD"], 0⟩, ⟨["main"], 1⟩, ⟨["CLIP_2"], 2⟩, ⟨["CLIP_3"], 3⟩])]
  have starts_eq : Timeline.starts untimedTemplate = .ok starts :=
    starts_eq_ok_iff.mpr (.cons ⟨ofValue_beginning _, rfl⟩ .nil)
  let resolution : Resolution untimedTemplate untimedInfos ⟨stacked entries, 4⟩ :=
    { starts
      everyFit := false
      ends := [0, 4, 0, 0]
      rows := [] :: entries.map ([·])
      starts_eq
      everyFit_eq := rfl
      ends_eq := Result.toOption_eq_some_iff.mp (by decide +kernel)
      total_eq := Result.toOption_eq_some_iff.mp (by decide +kernel)
      rows_eq := Result.toOption_eq_some_iff.mp (by decide +kernel)
      entries_eq := rfl }
  refine ⟨_, resolution.resolved, rfl, ?_⟩
  exact List.mergeSort_of_pairwise (by decide +kernel)

/-- Of the clips the one with the id of a padding is left out, and the others play alone, one for
its own length and two to the end of the output. -/
theorem untimedTemplate_playsAlone :
    untimedSource.get "timeline" = .null ∧
      ∃ timeline, untimedTemplate.resolveTimeline untimedInfos = .ok timeline ∧
        List.Forall₂ (PlaysAlone untimedTemplate untimedInfos 4)
          (untimedTemplate.clips.zipIdx.drop 1) timeline.entries := by
  obtain ⟨timeline, resolved, total_eq, _⟩ := exists_untimedTimeline
  have untimed : untimedSource.get "timeline" = .null := rfl
  obtain ⟨alone, _⟩ := playsAlone_of_untimed read_untimedSource untimed resolved
  rw [total_eq] at alone
  exact ⟨untimed, timeline, resolved, alone⟩

/-- A template without a timeline is read and resolved, and the first of its clips, which has a
length, is not played. -/
theorem untimedTemplate_leaves_out :
    Template.read ⟨"/", []⟩ untimedSource = .ok untimedTemplate ∧
      untimedSource.get "timeline" = .null ∧
      ∃ timeline, untimedTemplate.resolveTimeline untimedInfos = .ok timeline ∧
        untimedTemplate.clips.map Clip.id = ["PAD", "main", "CLIP_2", "CLIP_3"] ∧
        timeline.entries.map Entry.clipId = ["main", "CLIP_2", "CLIP_3"] := by
  obtain ⟨timeline, resolved, _, entries_eq⟩ := exists_untimedTimeline
  exact ⟨read_untimedSource, rfl, timeline, resolved, rfl, by rw [entries_eq]; rfl⟩

end Timeline

end Montage
