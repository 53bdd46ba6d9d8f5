import Montage.Proofs.Timeline.Runs
import Montage.Template.Reading

/-!
# Where the output ends

Unless all clips fit, the output ends with the layer that has been measured to end last.  When
this layer is walked, everything in it plays as it has been measured: paddings do not move the
cursor, clips that fit find no room, and the last of the other clips ends with the output.  There
need not be any such clip.  A layer that begins late and has nothing to play is measured to end
where it begins, and if no layer ends later, neither does the output.
-/

namespace Montage.Timeline

variable {template : Template ℚ} {infos : MediaMap ℚ} {everyFit : Bool} {zIndex : Int}
variable {position total length start : ℚ} {id : String} {rest row : List String}
variable {clip : Clip ℚ} {timing : Timing ℚ} {entries : List (Entry ℚ)}

/-- All clips of a row may be left out. -/
def AllOptional (template : Template ℚ) (infos : MediaMap ℚ) (row : List String) : Prop :=
  ∀ id ∈ row, id ≠ Layer.padding → IsOptional template infos id

/-- A clip that is left out counts for nothing, unless all clips fit. -/
theorem weight_of_leftOut
    (leftOut : played template infos false total position clip timing rest = .ok none) :
    weight false clip timing = 0 := by
  rcases leftOut_cases leftOut with isFit | unknown
  · simp [weight, isFit]
  · simp [weight, unknown]

/-- A clip that is played in front of a row that takes up the rest of the output ends with the
output, or it does not fit and counts for as long as it plays. -/
theorem ends_or_counts_of_played {later : ℚ}
    (measured : counted template infos false (position + weight false clip timing) rest =
      .ok later)
    (taken : position + (weight false clip timing + later) = total)
    (plays : played template infos false total position clip timing rest =
      .ok (some (length, start))) :
    position + length = total ∨ weight false clip timing = length := by
  rcases played_cases plays with ⟨unfit, rfl, _⟩ | ⟨isFit, behind, restMeasured, kept⟩
  · cases known : timing.duration with
    | none => exact .inl (by simp)
    | some duration => exact .inr (by simp [weight, unfit, known])
  · have weight_eq : weight false clip timing = 0 := by simp [weight, isFit]
    rw [weight_eq, add_zero] at measured
    rw [weight_eq, zero_add] at taken
    cases measured.symm.trans restMeasured
    rw [fitted_eq_none taken] at kept
    cases kept

/-- Where what counts of a row takes up exactly the rest of the output, an entry of the row ends
with the output, or the output ends where the row begins, and nothing of it plays. -/
theorem attained_of_entriesFrom (measured : counted template infos false position row = .ok length)
    (taken : position + length = total)
    (walked : entriesFrom template infos false total zIndex position row = .ok entries) :
    (∃ entry ∈ entries, entry.endAt = total) ∨
      (entries = [] ∧ position = total ∧ AllOptional template infos row) := by
  induction row generalizing position length entries with
  | nil =>
      cases measured
      cases walked
      exact .inr ⟨rfl, by linarith, by simp [AllOptional]⟩
  | cons id rest ih =>
      rcases entriesFrom_cons_cases walked with
        ⟨rfl, behind, restMeasured, walkedRest⟩ | ⟨clipId, clip, timing, found, resolved, walk⟩
      · rw [counted_cons_padding] at measured
        cases measured.symm.trans restMeasured
        rw [afterPadding_of_taken taken] at walkedRest
        refine (ih restMeasured taken walkedRest).imp_right ?_
        rintro ⟨none, here, optional⟩
        exact ⟨none, here, List.forall_mem_cons.mpr ⟨fun clipId => absurd rfl clipId, optional⟩⟩
      · rcases counted_cons_cases measured with
          ⟨pad, _⟩ | ⟨_, clip', timing', later, found', resolved', restMeasured, rfl⟩
        · exact absurd pad clipId
        cases found.symm.trans found'
        cases resolved.symm.trans resolved'
        rcases walk with ⟨leftOut, walkedRest⟩ | ⟨kept, start, entries, plays, walkedRest, rfl⟩
        · have weight_eq := weight_of_leftOut leftOut
          rw [weight_eq, add_zero] at restMeasured
          rw [weight_eq, zero_add] at taken
          refine (ih restMeasured taken walkedRest).imp_right ?_
          rintro ⟨none, here, optional⟩
          exact ⟨none, here, List.forall_mem_cons.mpr
            ⟨fun _ => isOptional_of_leftOut found resolved leftOut, optional⟩⟩
        · left
          rcases ends_or_counts_of_played restMeasured taken plays with ends | weight_eq
          · exact ⟨_, List.mem_cons_self, ends⟩
          · rw [weight_eq] at restMeasured taken
            rcases ih restMeasured (by linarith) walkedRest with
              ⟨entry, member, ends⟩ | ⟨_, ends, _⟩
            · exact ⟨entry, List.mem_cons_of_mem _ member, ends⟩
            · exact ⟨_, List.mem_cons_self, ends⟩

/-! ## Layers -/

/-- A layer has been measured to end with the output. -/
def Reaches (template : Template ℚ) (infos : MediaMap ℚ) (total : ℚ) (placed : ℚ × Layer) : Prop :=
  ∃ length, counted template infos false placed.1 placed.2.clips = .ok length ∧
    placed.1 + length = total

/-- The output ends where layers begin.  There are layers that have been measured to end with
it, and each of them begins there, with no clips but optional ones. -/
structure EndsAtStart (template : Template ℚ) (infos : MediaMap ℚ) (total : ℚ)
    (layers : List (ℚ × Layer)) : Prop where
  reached : ∃ placed ∈ layers, Reaches template infos total placed
  begins : ∀ placed ∈ layers, Reaches template infos total placed →
    placed.1 = total ∧ AllOptional template infos placed.2.clips

/-- All clips of a row lack a length. -/
def RowLacksLengths (template : Template ℚ) (infos : MediaMap ℚ) (row : List String) : Prop :=
  ∀ id ∈ row, id ≠ Layer.padding → ∀ clip, template.clip id = .ok clip →
    Timing.LacksLength clip (infos.lookup id)

/-- A row of clips that lack a length counts for nothing. -/
theorem RowLacksLengths.counted_eq_zero (lacks : RowLacksLengths template infos row)
    (measured : counted template infos everyFit position row = .ok length) : length = 0 := by
  induction row generalizing position length with
  | nil =>
      cases measured
      rfl
  | cons id rest ih =>
      obtain ⟨here, behind⟩ := List.forall_mem_cons.mp lacks
      rcases counted_cons_cases measured with
        ⟨_, restMeasured⟩ | ⟨clipId, clip, timing, later, found, resolved, restMeasured, rfl⟩
      · exact ih behind restMeasured
      · have unknown := (here clipId clip found).duration_eq_none resolved
        rw [ih behind restMeasured]
        simp [weight, unknown]

/-- Unless all clips fit, an entry ends exactly with the output, or the output ends where layers
begin that have nothing to play.  If all clips lack a length it always does, with the layer that
begins last, so that such a timeline is resolved if only a layer begins late. -/
theorem total_attained {timeline : Timeline ℚ} (unfit : HasUnfitClip template)
    (resolved : template.resolveTimeline infos = .ok timeline) :
    0 < timeline.total ∧ ∃ starts, Timeline.starts template = .ok starts ∧
      ((∃ entry ∈ timeline.entries, entry.endAt = timeline.total) ∨
        EndsAtStart template infos timeline.total (layers starts)) ∧
      ((∀ placed ∈ layers starts, RowLacksLengths template infos placed.2.clips) →
        EndsAtStart template infos timeline.total (layers starts) ∧
          ∀ placed ∈ layers starts, placed.1 ≤ timeline.total) := by
  obtain ⟨resolution⟩ := exists_resolution resolved
  have mode := resolution.everyFit_eq_false_iff.mpr unfit
  have reached := resolution.exists_measured_eq mode
  refine ⟨totalOf_pos resolution.total_eq, resolution.starts, resolution.starts_eq, ?_,
    fun lacks => ⟨⟨reached, ?_⟩, ?_⟩⟩
  · by_cases attained : ∃ entry ∈ timeline.entries, entry.endAt = timeline.total
    · exact .inl attained
    · refine .inr ⟨reached, ?_⟩
      rintro placed member ⟨length, measured, taken⟩
      obtain ⟨row, inRows, walked⟩ := Result.exists_value_of_mapM resolution.rows_eq member
      rw [mode] at walked
      rcases attained_of_entriesFrom measured taken walked with
        ⟨entry, inRow, ends⟩ | ⟨_, here, optional⟩
      · exact absurd ⟨entry, resolution.mem_entries_of_mem_row inRows inRow, ends⟩ attained
      · exact ⟨here, optional⟩
  · rintro placed member ⟨length, measured, taken⟩
    rw [(lacks placed member).counted_eq_zero measured, add_zero] at taken
    refine ⟨taken, fun id inLayer clipId => ?_⟩
    obtain ⟨clip, found⟩ := exists_clip_of_counted measured id inLayer clipId
    exact ⟨clip, found, .inr (lacks placed member id inLayer clipId clip found)⟩
  · intro placed member
    obtain ⟨length, measured, within⟩ := resolution.measured_of_mem mode member
    rwa [(lacks placed member).counted_eq_zero measured, add_zero] at within

/-! ## Layers that begin late -/

theorem levelTemplate_hasUnfitClip : HasUnfitClip levelTemplate :=
  ⟨_, List.mem_cons_self, ⟨["first", "second", "first"], 1⟩, by simp, "first", by simp,
    by simp [Layer.padding], _, rfl, rfl⟩

/-- The layer that begins after a second plays for eleven more, up to the end of the output. -/
theorem levelTemplate_total_attained :
    ∃ timeline, levelTemplate.resolveTimeline levelInfos = .ok timeline ∧ timeline.total = 12 ∧
      ∃ entry ∈ timeline.entries, entry.endAt = 12 := by
  have evaluated : (levelTemplate.resolveTimeline levelInfos).toOption.map Timeline.total =
      some 12 := by
    decide +kernel
  obtain ⟨timeline, resolved, total_eq⟩ := exists_of_map_total evaluated
  obtain ⟨_, starts, starts_eq, attained, _⟩ := total_attained levelTemplate_hasUnfitClip resolved
  cases starts_eq
  rw [total_eq] at attained
  refine ⟨timeline, resolved, total_eq, attained.resolve_right fun ends => ?_⟩
  have measured : counted levelTemplate levelInfos false 1 ["first", "second", "first"] = .ok 11 :=
    Result.toOption_eq_some_iff.mp (by decide +kernel)
  have late := ends.begins (1, ⟨["first", "second", "first"], 1⟩) List.mem_cons_self
    ⟨11, measured, by norm_num⟩
  exact absurd late.1 (by norm_num)

/-- A template with a still image that has no length and begins after five seconds. -/
def lateSource : Value ℚ :=
  .map
    [(.text "clips", .list [.map [(.text "id", .text "still"), (.text "file", .text "still.png")]]),
      (.text "timeline", .map [(.number 5, .list [.list [.text "still"]])])]

/-- The template that is read from it. -/
def lateTemplate : Template ℚ where
  clips := [.plain "still" "/still.png"]
  size := ⟨.text "100%", .text "100%", some "still", "black"⟩
  timeline := [(.number 5, [⟨["still"], 0⟩])]
  preview := .text "00:00:00"
  keypoints := []
  directory := ⟨"/", []⟩

/-- What is known of the image. -/
def lateInfos : MediaMap ℚ :=
  [("still", ⟨2, 2, 60, none, none, false, .image⟩)]

/-- A template of a clip without a length is read and resolved, unless all clips fit, and nothing
plays in the five seconds of its output. -/
theorem lateTemplate_plays_nothing :
    Template.read ⟨"/", []⟩ lateSource = .ok lateTemplate ∧ HasUnfitClip lateTemplate ∧
      RowLacksLengths lateTemplate lateInfos ["still"] ∧
      ∃ timeline, lateTemplate.resolveTimeline lateInfos = .ok timeline ∧
        timeline.total = 5 ∧ timeline.entries = [] := by
  have evaluated : (lateTemplate.resolveTimeline lateInfos).toOption.map Timeline.total = some 5 := by
    decide +kernel
  have walked : entriesFrom lateTemplate lateInfos false 5 0 5 ["still"] = .ok [] :=
    Result.toOption_eq_some_iff.mp (by decide +kernel)
  have lacks : RowLacksLengths lateTemplate lateInfos ["still"] := by
    intro id member _ clip found
    rw [List.mem_singleton] at member
    subst member
    cases found
    exact ⟨rfl, rfl, rfl⟩
  have unfit : HasUnfitClip lateTemplate :=
    ⟨_, List.mem_cons_self, ⟨["still"], 0⟩, by simp, "still", by simp, by simp [Layer.padding], _,
      rfl, rfl⟩
  exact ⟨rfl, unfit, lacks, exists_of_rows evaluated rfl rfl (.cons walked .nil) (by simp)⟩

end Montage.Timeline
