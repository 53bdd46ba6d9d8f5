import Montage.Proofs.Timeline.Layers

/-!
# What is kept where all clips fit

If all clips fit, the output ends with the shortest layer and every longer layer gives up
its beginning.  Walking such a layer leaves clips out as long as the clips behind them
take up the output alone.  The first clip with room in front of the others gets exactly
that room, from where on the rest of the layer ends with the output, and this is kept to
the end of the row: no clip behind it is touched.
-/

namespace Montage.Timeline

/-- How a clip plays when nothing of it is cut off to fit. -/
structure Whole where
  length : ℚ
  trimStart : ℚ
  speed : ℚ
  /-- Whether the clip would lose its end, not its beginning. -/
  endFits : Bool

variable {template : Template ℚ} {infos : MediaMap ℚ} {whole : String → Whole}
variable {position total : ℚ} {id : String} {rest row : List String} {zIndex : Int}
variable {entries : List (Entry ℚ)}

/-- A clip that fits and has a length of its own, which is more than the tolerance and does
not depend on where the clip begins. -/
structure IsFitting (template : Template ℚ) (infos : MediaMap ℚ) (id : String)
    (whole : Whole) (clip : Clip ℚ) : Prop where
  found : template.clip id = .ok clip
  isFit : clip.isFit = true
  endFits : clip.trim.ending.isFit = whole.endFits
  unstopped : clip.trim.stopAtOutput.isGiven = false
  resolved : Timing.ofClip template.scope clip (infos.lookup id) 0 =
    .ok ⟨some whole.length, whole.trimStart, whole.speed⟩
  tolerance_lt : Scalar.tolerance < whole.length

/-- All clips of a row fit. -/
def RowFitting (template : Template ℚ) (infos : MediaMap ℚ) (whole : String → Whole)
    (row : List String) : Prop :=
  ∀ id ∈ row, id ≠ Layer.padding → ∃ clip, IsFitting template infos id (whole id) clip

theorem RowFitting.tail (fitting : RowFitting template infos whole (id :: rest)) :
    RowFitting template infos whole rest :=
  fun other member => fitting other (List.mem_cons_of_mem id member)

/-- The clip of an id in a row that fits, and its timing wherever it begins. -/
theorem RowFitting.timing_eq (fitting : RowFitting template infos whole (id :: rest))
    (clipId : id ≠ Layer.padding) {clip : Clip ℚ} {timing : Timing ℚ}
    (found : template.clip id = .ok clip)
    (resolved : Timing.ofClip template.scope clip (infos.lookup id) position = .ok timing) :
    IsFitting template infos id (whole id) clip ∧
      timing = ⟨some (whole id).length, (whole id).trimStart, (whole id).speed⟩ := by
  obtain ⟨clip', isFitting⟩ := fitting id List.mem_cons_self clipId
  cases isFitting.found.symm.trans found
  rw [Timing.ofClip_at_other isFitting.unstopped position 0] at resolved
  exact ⟨isFitting, Except.ok.inj (resolved.symm.trans isFitting.resolved)⟩

/-! ## Full lengths -/

/-- The clips of a row. -/
def clipsOf (row : List String) : List String :=
  row.filter (· ≠ Layer.padding)

/-- How long the clips of a row are together. -/
def extent (whole : String → Whole) (row : List String) : ℚ :=
  ((clipsOf row).map fun id => (whole id).length).sum

@[simp]
theorem clipsOf_cons_padding : clipsOf (Layer.padding :: rest) = clipsOf rest := by
  simp [clipsOf]

theorem clipsOf_cons_clip (clipId : id ≠ Layer.padding) :
    clipsOf (id :: rest) = id :: clipsOf rest := by
  simp [clipsOf, clipId]

@[simp]
theorem extent_cons_padding : extent whole (Layer.padding :: rest) = extent whole rest := by
  simp [extent]

theorem extent_cons_clip (clipId : id ≠ Layer.padding) :
    extent whole (id :: rest) = (whole id).length + extent whole rest := by
  simp [extent, clipsOf_cons_clip clipId]

@[simp]
theorem extent_nil : extent whole [] = 0 :=
  rfl

theorem clipsOf_of_not_mem (clips : Layer.padding ∉ row) : clipsOf row = row := by
  rw [clipsOf, List.filter_eq_self]
  intro id member
  have clipId : id ≠ Layer.padding := by
    rintro rfl
    exact clips member
  simpa using clipId

theorem extent_of_not_mem (clips : Layer.padding ∉ row) :
    extent whole row = (row.map fun id => (whole id).length).sum := by
  rw [extent, clipsOf_of_not_mem clips]

/-- Where all clips fit, a row counts for the lengths of its clips. -/
theorem counted_eq_extent (fitting : RowFitting template infos whole row) {length : ℚ}
    (measured : counted template infos true position row = .ok length) :
    length = extent whole row := by
  induction row generalizing position length with
  | nil =>
      cases measured
      rfl
  | cons id rest ih =>
      rcases counted_cons_cases measured with
        ⟨rfl, behind⟩ | ⟨clipId, clip, timing, later, found, resolved, behind, rfl⟩
      · rw [extent_cons_padding]
        exact ih fitting.tail behind
      · obtain ⟨-, rfl⟩ := fitting.timing_eq clipId found resolved
        rw [extent_cons_clip clipId, ← ih fitting.tail behind]
        simp [weight]

/-! ## One clip -/

/-- The entry of a clip that plays in full. -/
def inFull (whole : String → Whole) (zIndex : Int) (position : ℚ) (id : String) : Entry ℚ :=
  ⟨id, position, (whole id).length, (whole id).trimStart, (whole id).speed, zIndex⟩

/-- The entry of a clip that gives up an excess of its length. -/
def shortened (whole : String → Whole) (zIndex : Int) (position excess : ℚ) (id : String) :
    Entry ℚ where
  clipId := id
  startAt := position
  duration := (whole id).length - excess
  trimStart :=
    if (whole id).endFits then (whole id).trimStart
    else (whole id).trimStart + excess * (whole id).speed
  speed := (whole id).speed
  zIndex := zIndex

theorem shortened_zero :
    shortened whole zIndex position 0 id = inFull whole zIndex position id := by
  simp [shortened, inFull]

/-- How a clip of a row that fits plays in front of the rest of the row. -/
theorem played_eq_fitted (fitting : RowFitting template infos whole rest) {clip : Clip ℚ}
    (isFitting : IsFitting template infos id (whole id) clip) {placed : Option (ℚ × ℚ)}
    {timing : Timing ℚ} (known : timing.duration = some (whole id).length)
    (plays : played template infos true total position clip timing rest = .ok placed) :
    placed = fitted total position (extent whole rest) (whole id).length (whole id).endFits
      timing := by
  simp only [played, known, Option.isNone_some, Bool.false_and, Bool.false_eq_true, if_false,
    isFitting.isFit, if_true, Option.getD_some, Result.bind_eq_ok_iff, Result.pure_eq_ok_iff,
    isFitting.endFits] at plays
  obtain ⟨behind, measured, rfl⟩ := plays
  rw [counted_eq_extent fitting measured]

/-- What a walk does at the head of a row that is at least as long as what is left of the
output.  A clip without room in front of the rest of the row is left out, and any other
gives up what does not fit. -/
theorem entriesFrom_cons_fitting (fitting : RowFitting template infos whole (id :: rest))
    (clipId : id ≠ Layer.padding)
    (longer : total < position + extent whole (id :: rest) + Scalar.tolerance)
    (walked : entriesFrom template infos true total zIndex position (id :: rest) =
      .ok entries) :
    (total - position - extent whole rest < Scalar.tolerance ∧
      entriesFrom template infos true total zIndex position rest = .ok entries) ∨
    (Scalar.tolerance ≤ total - position - extent whole rest ∧ ∃ later,
      entriesFrom template infos true total zIndex (total - extent whole rest) rest =
        .ok later ∧
      entries =
        shortened whole zIndex position (position + extent whole (id :: rest) - total) id ::
          later) := by
  rw [extent_cons_clip clipId] at longer ⊢
  rcases entriesFrom_cons_cases walked with
    ⟨pad, _⟩ | ⟨_, clip, timing, found, resolved, walk⟩
  · exact absurd pad clipId
  · obtain ⟨isFitting, rfl⟩ := fitting.timing_eq clipId found resolved
    have shorter : total - position - extent whole rest <
        (whole id).length + Scalar.tolerance := by
      linarith
    rcases walk with ⟨leftOut, walkedRest⟩ | ⟨length, start, later, plays, walkedRest, rfl⟩
    · have placed := played_eq_fitted fitting.tail isFitting rfl leftOut
      rw [fitted_rat, if_pos shorter] at placed
      split at placed
      · rename_i noRoom
        exact .inl ⟨noRoom, walkedRest⟩
      · cases placed
    · have placed := played_eq_fitted fitting.tail isFitting rfl plays
      rw [fitted_rat, if_pos shorter] at placed
      split at placed
      · cases placed
      · rename_i hasRoom
        cases placed
        have ends : position + (total - position - extent whole rest) =
            total - extent whole rest := by
          ring
        have gives : total - position - extent whole rest = (whole id).length -
            (position + ((whole id).length + extent whole rest) - total) := by
          ring
        rw [ends] at walkedRest
        refine .inr ⟨not_lt.mp hasRoom, later, walkedRest, ?_⟩
        rw [shortened, ← gives, ← add_assoc]

/-! ## Rows -/

/-- Clips that play one after another in full. -/
def allInFull (whole : String → Whole) (zIndex : Int) (position : ℚ) :
    List String → List (Entry ℚ)
  | [] => []
  | id :: rest =>
      inFull whole zIndex position id ::
        allInFull whole zIndex (position + (whole id).length) rest

/-- A row that ends with the output is not touched. -/
theorem entriesFrom_eq_allInFull (fitting : RowFitting template infos whole row)
    (ends : position + extent whole row = total)
    (walked : entriesFrom template infos true total zIndex position row = .ok entries) :
    entries = allInFull whole zIndex position (clipsOf row) := by
  have positive : (0 : ℚ) < Scalar.tolerance := Scalar.tolerance_rat_pos
  induction row generalizing position entries with
  | nil =>
      cases walked
      rfl
  | cons id rest ih =>
      by_cases pad : id = Layer.padding
      · rcases entriesFrom_cons_cases walked with ⟨rfl, behind, measured, walkedRest⟩ | ⟨clipId, _⟩
        · rw [extent_cons_padding] at ends
          -- the rest of the row ends with the output already, so there is no pause
          have stays : afterPadding total position behind = position := by
            rw [afterPadding_rat, counted_eq_extent fitting.tail measured, ← ends]
            simp
          rw [stays] at walkedRest
          rw [clipsOf_cons_padding]
          exact ih fitting.tail ends walkedRest
        · exact absurd pad clipId
      · obtain ⟨_, isFitting⟩ := fitting id List.mem_cons_self pad
        have tolerance_lt := isFitting.tolerance_lt
        have noExcess : position + extent whole (id :: rest) - total = 0 := by
          linarith
        have longer : total < position + extent whole (id :: rest) + Scalar.tolerance := by
          linarith
        rw [extent_cons_clip pad] at ends
        rcases entriesFrom_cons_fitting fitting pad longer walked with
          ⟨noRoom, _⟩ | ⟨_, later, walkedRest, rfl⟩
        · linarith
        · have next : total - extent whole rest = position + (whole id).length := by
            linarith
          rw [next] at walkedRest
          rw [noExcess, shortened_zero, clipsOf_cons_clip pad, allInFull,
            ih fitting.tail (by linarith) walkedRest]

/-- Clips that play in full behind an entry end when all of them have been played. -/
theorem endAt_of_mem_getLast? (entry : Entry ℚ) (clips : List String) :
    ∀ last ∈ (entry :: allInFull whole zIndex entry.endAt clips).getLast?,
      last.endAt = entry.endAt + (clips.map fun id => (whole id).length).sum := by
  induction clips generalizing entry with
  | nil => simp [allInFull]
  | cons id rest ih =>
      intro last member
      rw [allInFull, List.getLast?_cons_cons] at member
      have ends : (inFull whole zIndex entry.endAt id).endAt =
        entry.endAt + (whole id).length := rfl
      rw [← ends] at member
      rw [ih _ last member, ends, List.map_cons, List.sum_cons, add_assoc]

/-- A row of entries with the last clips of a layer.  What the layer is longer than the output
is dropped in front: some clips as a whole, and an excess of the first clip that is kept.
All others play in full, one after another, and the last ends with the output. -/
structure Suffix (whole : String → Whole) (total : ℚ) (zIndex : Int) (start : ℚ)
    (clips : List String) (row : List (Entry ℚ)) where
  dropped : List String
  first : String
  kept : List String
  excess : ℚ
  clips_eq : clips = dropped ++ first :: kept
  row_eq : row = shortened whole zIndex start excess first ::
    allInFull whole zIndex (start + ((whole first).length - excess)) kept
  overshoot_eq : start + extent whole clips - total = extent whole dropped + excess
  neg_tolerance_lt : -Scalar.tolerance < excess
  tolerance_le : Scalar.tolerance ≤ (whole first).length - excess
  last_endAt : ∀ last ∈ row.getLast?, last.endAt = total

/-- What is kept of a row is kept with one more clip dropped in front of it. -/
def Suffix.cons (suffix : Suffix whole total zIndex position rest entries)
    (clipId : id ≠ Layer.padding) : Suffix whole total zIndex position (id :: rest) entries where
  dropped := id :: suffix.dropped
  first := suffix.first
  kept := suffix.kept
  excess := suffix.excess
  clips_eq := congrArg (id :: ·) suffix.clips_eq
  row_eq := suffix.row_eq
  overshoot_eq := by
    rw [extent_cons_clip clipId, extent_cons_clip clipId]
    linarith [suffix.overshoot_eq]
  neg_tolerance_lt := suffix.neg_tolerance_lt
  tolerance_le := suffix.tolerance_le
  last_endAt := suffix.last_endAt

/-- A clip with room in front of the rest of its row is the first that is kept. -/
theorem exists_suffix_of_room (fitting : RowFitting template infos whole rest)
    (clipId : id ≠ Layer.padding) (clips : Layer.padding ∉ rest)
    (longer : total < position + extent whole (id :: rest) + Scalar.tolerance)
    (hasRoom : Scalar.tolerance ≤ total - position - extent whole rest)
    (walked : entriesFrom template infos true total zIndex (total - extent whole rest) rest =
      .ok entries) :
    Nonempty (Suffix whole total zIndex position (id :: rest)
      (shortened whole zIndex position (position + extent whole (id :: rest) - total) id ::
        entries)) := by
  have extent_eq : extent whole (id :: rest) = (whole id).length + extent whole rest :=
    extent_cons_clip clipId
  generalize excess_eq : position + extent whole (id :: rest) - total = excess
  have next : total - extent whole rest = position + ((whole id).length - excess) := by
    linarith
  have room : total - position - extent whole rest = (whole id).length - excess := by
    linarith
  have ends : position + ((whole id).length - excess) + extent whole rest = total := by
    linarith
  rw [next] at walked
  have row_eq := entriesFrom_eq_allInFull fitting ends walked
  rw [clipsOf_of_not_mem clips] at row_eq
  subst row_eq
  refine ⟨⟨[], id, rest, excess, rfl, rfl, ?_, by linarith, ?_, ?_⟩⟩
  · rw [excess_eq, extent_nil, zero_add]
  · rw [← room]
    exact hasRoom
  · intro last member
    rw [endAt_of_mem_getLast? _ _ last member, ← extent_of_not_mem clips]
    exact ends

/-- A row that is longer than what is left of the output keeps its last clips, if there is
time for any. -/
theorem exists_suffix (fitting : RowFitting template infos whole row)
    (clips : Layer.padding ∉ row) (begins : position + Scalar.tolerance ≤ total)
    (longer : total < position + extent whole row + Scalar.tolerance)
    (walked : entriesFrom template infos true total zIndex position row = .ok entries) :
    Nonempty (Suffix whole total zIndex position row entries) := by
  induction row generalizing entries with
  | nil =>
      rw [extent_nil] at longer
      linarith
  | cons id rest ih =>
      rw [List.mem_cons, not_or] at clips
      have clipId : id ≠ Layer.padding := fun pad => clips.1 pad.symm
      rcases entriesFrom_cons_fitting fitting clipId longer walked with
        ⟨noRoom, walkedRest⟩ | ⟨hasRoom, later, walkedRest, rfl⟩
      · -- a clip without room leaves less than a tolerance for the rest to fall short of
        obtain ⟨suffix⟩ := ih fitting.tail clips.2 (by linarith) walkedRest
        exact ⟨suffix.cons clipId⟩
      · exact exists_suffix_of_room fitting.tail clipId clips.2 longer hasRoom walkedRest

/-! ## Layers -/

/-- What becomes of a layer: it is not shorter than the output, it keeps its last clips if
there is time for any, and all of its clips if it ends with the output. -/
structure Keeps (whole : String → Whole) (total start : ℚ) (layer : Layer)
    (row : List (Entry ℚ)) : Prop where
  total_le : total ≤ start + extent whole layer.clips
  suffix : Layer.padding ∉ layer.clips → start + Scalar.tolerance ≤ total →
    Nonempty (Suffix whole total layer.zIndex start layer.clips row)
  untouched : start + extent whole layer.clips = total →
    row = allInFull whole layer.zIndex start (clipsOf layer.clips)

theorem keeps_of_entriesFrom {start : ℚ} {layer : Layer}
    (fitting : RowFitting template infos whole layer.clips)
    (ends : total ≤ start + extent whole layer.clips)
    (walked : entriesFrom template infos true total layer.zIndex start layer.clips =
      .ok entries) : Keeps whole total start layer entries where
  total_le := ends
  suffix clips begins := by
    have positive : (0 : ℚ) < Scalar.tolerance := Scalar.tolerance_rat_pos
    exact exists_suffix fitting clips begins (by linarith) walked
  untouched exactly := entriesFrom_eq_allInFull fitting exactly walked

/-- All clips in the timeline of a template fit. -/
def AllFitting (template : Template ℚ) (infos : MediaMap ℚ) (whole : String → Whole) : Prop :=
  ∀ group ∈ template.timeline, ∀ layer ∈ group.2, RowFitting template infos whole layer.clips

namespace Resolution

variable {timeline : Timeline ℚ} (resolution : Resolution template infos timeline)

include resolution in
theorem rowFitting_of_mem (fitting : AllFitting template infos whole) {start : ℚ}
    {layer : Layer} (member : (start, layer) ∈ layers resolution.starts) :
    RowFitting template infos whole layer.clips := by
  rcases exists_of_mem_layers resolution.starts_eq member with
    ⟨value, group, groupMem, inGroup, _⟩
  exact fitting (value, group) groupMem layer inGroup

theorem everyFit_eq_true (fitting : AllFitting template infos whole) :
    resolution.everyFit = true := by
  refine allFit_eq_true (fun id member clipId clip found => ?_) resolution.everyFit_eq
  obtain ⟨⟨start, layer⟩, layerMem, inLayer⟩ := List.mem_flatMap.mp member
  obtain ⟨clip', isFitting⟩ := resolution.rowFitting_of_mem fitting layerMem id inLayer clipId
  cases isFitting.found.symm.trans found
  exact isFitting.isFit

/-- The ends of the layers are where all of their clips have been played. -/
theorem ends_eq_map (fitting : AllFitting template infos whole) :
    resolution.ends =
      (layers resolution.starts).map fun placed => placed.1 + extent whole placed.2.clips := by
  have measured := Result.mapM_eq_ok_iff.mp resolution.ends_eq
  rw [resolution.everyFit_eq_true fitting] at measured
  have placed := (List.forall₂_and_left _ _).mpr ⟨fun placed member => member, measured⟩
  rw [eq_comm, ← List.forall₂_eq_eq_eq, List.forall₂_map_left_iff]
  refine placed.imp ?_
  rintro ⟨start, layer⟩ layerEnd ⟨member, ended⟩
  rcases Result.bind_eq_ok_iff.mp ended with ⟨length, counts, same⟩
  cases Result.pure_eq_ok_iff.mp same
  rw [counted_eq_extent (resolution.rowFitting_of_mem fitting member) counts]

end Resolution

/-- Where all clips of a timeline fit, the output ends with its shortest layer, and every
layer keeps its last clips. -/
theorem keeps_of_allFitting {timeline : Timeline ℚ}
    (fitting : AllFitting template infos whole)
    (resolved : template.resolveTimeline infos = .ok timeline) :
    ∃ starts rows, Timeline.starts template = .ok starts ∧
      timeline.entries = stacked rows.flatten ∧
      (∃ shortest ∈ layers starts,
        shortest.1 + extent whole shortest.2.clips = timeline.total) ∧
      List.Forall₂ (fun placed row => Keeps whole timeline.total placed.1 placed.2 row)
        (layers starts) rows := by
  obtain ⟨resolution⟩ := exists_resolution resolved
  have total_eq := resolution.total_eq
  rw [resolution.everyFit_eq_true fitting, resolution.ends_eq_map fitting] at total_eq
  obtain ⟨attained, least⟩ := least_of_totalOf total_eq
  rw [List.mem_map] at attained
  rw [List.forall_mem_map] at least
  refine ⟨resolution.starts, resolution.rows, resolution.starts_eq, resolution.entries_eq,
    attained, ?_⟩
  have walked := Result.mapM_eq_ok_iff.mp resolution.rows_eq
  rw [resolution.everyFit_eq_true fitting] at walked
  have placed := (List.forall₂_and_left _ _).mpr ⟨fun placed member => member, walked⟩
  refine placed.imp ?_
  rintro ⟨start, layer⟩ row ⟨member, walked⟩
  exact keeps_of_entriesFrom (resolution.rowFitting_of_mem fitting member) (least _ member) walked

/-! ## A long layer above a short one -/

/-- A layer of three clips, one more than there is time for, lies above one that begins after
a second. -/
def fittingTemplate : Template ℚ where
  clips :=
    [{ Clip.plain "opening" "opening.mp4" with
        trim := ⟨none, some (.text "fit"), none, none⟩ },
      { Clip.plain "middle" "middle.mp4" with
        trim := ⟨some (.text "fit"), none, none, none⟩ },
      { Clip.plain "closing" "closing.mp4" with
        trim := ⟨some (.text "fit"), some (.number 1), none, none⟩ }]
  size := ⟨.null, .null, none, "black"⟩
  timeline :=
    [(.number 0, [⟨["opening", "middle", "closing"], 1⟩]), (.number 1, [⟨["closing"], 0⟩])]
  preview := .null
  keypoints := []
  directory := ⟨"/", []⟩

/-- The lengths of the three sources. -/
def fittingInfos : MediaMap ℚ :=
  [("opening", ⟨0, 0, 30, some 5, none, false, .video⟩),
    ("middle", ⟨0, 0, 30, some 10, none, false, .video⟩),
    ("closing", ⟨0, 0, 30, some 7, none, false, .video⟩)]

/-- How the three clips play in full. -/
def fittingWhole (id : String) : Whole :=
  if id = "opening" then ⟨5, 0, 1, true⟩
  else if id = "middle" then ⟨10, 0, 1, false⟩
  else ⟨6, 0, 1, false⟩

theorem fittingTemplate_allFitting : AllFitting fittingTemplate fittingInfos fittingWhole := by
  have small : (Scalar.tolerance : ℚ) < 5 := by
    rw [Scalar.tolerance_rat]
    norm_num
  have opening : ∃ clip,
      IsFitting fittingTemplate fittingInfos "opening" (fittingWhole "opening") clip :=
    ⟨_, rfl, rfl, rfl, rfl, by cbv, small⟩
  have middle : ∃ clip,
      IsFitting fittingTemplate fittingInfos "middle" (fittingWhole "middle") clip :=
    ⟨_, rfl, rfl, rfl, rfl, by cbv, small.trans (by decide +kernel)⟩
  have closing : ∃ clip,
      IsFitting fittingTemplate fittingInfos "closing" (fittingWhole "closing") clip :=
    ⟨_, rfl, rfl, rfl, rfl, by cbv, small.trans (by decide +kernel)⟩
  intro group groupMem layer layerMem id idMem _
  simp only [fittingTemplate, List.mem_cons, List.not_mem_nil, or_false] at groupMem
  rcases groupMem with rfl | rfl
  · simp only [List.mem_singleton] at layerMem
    subst layerMem
    simp only [List.mem_cons, List.not_mem_nil, or_false] at idMem
    rcases idMem with rfl | rfl | rfl
    · exact opening
    · exact middle
    · exact closing
  · simp only [List.mem_singleton] at layerMem
    subst layerMem
    rw [List.mem_singleton.mp idMem]
    exact closing

theorem keeps_fittingTemplate :
    ∃ timeline, fittingTemplate.resolveTimeline fittingInfos = .ok timeline ∧
      timeline.total = 7 ∧
      ∃ starts rows, Timeline.starts fittingTemplate = .ok starts ∧
        timeline.entries = stacked rows.flatten ∧
        (∃ shortest ∈ layers starts,
          shortest.1 + extent fittingWhole shortest.2.clips = timeline.total) ∧
        List.Forall₂ (fun placed row => Keeps fittingWhole timeline.total placed.1 placed.2 row)
          (layers starts) rows := by
  have total_eq : (fittingTemplate.resolveTimeline fittingInfos).toOption.map Timeline.total =
      some 7 := by
    decide +kernel
  cases resolved : fittingTemplate.resolveTimeline fittingInfos with
  | error fault =>
      rw [resolved] at total_eq
      cases total_eq
  | ok timeline =>
      rw [resolved] at total_eq
      exact ⟨timeline, rfl, Option.some.inj total_eq,
        keeps_of_allFitting fittingTemplate_allFitting resolved⟩

end Montage.Timeline
