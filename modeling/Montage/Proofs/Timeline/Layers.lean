import Montage.Proofs.Timeline.Row

/-!
# Layers of the time axis

Resolving a timeline measures all layers, takes the length of the output from their
ends, and walks each layer against it.  This file takes a resolved timeline apart: every
entry comes from the walk of one layer, that layer has been measured, and the length of
the output is none less than the end of a layer, unless all clips fit.
-/

namespace Montage.Timeline

section Resolving

variable {α : Type} {template : Template α} {infos : MediaMap α}

/-- Where all clips of a row are found to fit, each of them does. -/
theorem isFit_of_allFit {row : List String} (allFit : allFit template row = .ok true)
    {id : String} (member : id ∈ row) (clipId : id ≠ Layer.padding) {clip : Clip α}
    (found : template.clip id = .ok clip) : clip.isFit = true := by
  induction row with
  | nil => contradiction
  | cons first rest ih =>
      by_cases pad : first = Layer.padding
      · rw [Timeline.allFit, if_pos (by simpa using pad)] at allFit
        rcases List.mem_cons.mp member with rfl | member
        · exact absurd pad clipId
        · exact ih allFit member
      · rw [Timeline.allFit, if_neg (by simpa using pad)] at allFit
        rcases Result.bind_eq_ok_iff.mp allFit with ⟨firstClip, firstFound, fits⟩
        split at fits
        · rename_i firstFits
          rcases List.mem_cons.mp member with rfl | member
          · cases firstFound.symm.trans found
            exact firstFits
          · exact ih fits member
        · cases fits

/-- If every clip of a row fits, all of them are found to. -/
theorem allFit_eq_true {row : List String} {everyFit : Bool}
    (fits : ∀ id ∈ row, id ≠ Layer.padding → ∀ clip, template.clip id = .ok clip →
      clip.isFit = true)
    (found : allFit template row = .ok everyFit) : everyFit = true := by
  induction row with
  | nil =>
      cases found
      rfl
  | cons first rest ih =>
      rw [List.forall_mem_cons] at fits
      by_cases pad : first = Layer.padding
      · rw [Timeline.allFit, if_pos (by simpa using pad)] at found
        exact ih fits.2 found
      · rw [Timeline.allFit, if_neg (by simpa using pad)] at found
        rcases Result.bind_eq_ok_iff.mp found with ⟨clip, firstFound, found⟩
        rw [if_pos (fits.1 pad clip firstFound)] at found
        exact ih fits.2 found

/-- Where all clips of a row exist, it is found whether all of them fit. -/
theorem exists_allFit {row : List String}
    (exist : ∀ id ∈ row, id ≠ Layer.padding → ∃ clip, template.clip id = .ok clip) :
    ∃ everyFit, allFit template row = .ok everyFit := by
  induction row with
  | nil => exact ⟨true, rfl⟩
  | cons id rest ih =>
      rw [List.forall_mem_cons] at exist
      obtain ⟨everyFit, found⟩ := ih exist.2
      by_cases pad : id = Layer.padding
      · exact ⟨everyFit, by rw [Timeline.allFit, if_pos (by simpa using pad), found]⟩
      · obtain ⟨clip, clipFound⟩ := exist.1 pad
        rw [Timeline.allFit, if_neg (by simpa using pad), clipFound, Result.ok_bind]
        split
        · exact ⟨everyFit, found⟩
        · exact ⟨false, rfl⟩

/-- Whether all clips of a row fit does not depend on their order. -/
theorem allFit_eq_of_perm {row other : List String} {everyFit otherFit : Bool}
    (perm : other.Perm row) (found : allFit template row = .ok everyFit)
    (otherFound : allFit template other = .ok otherFit) : otherFit = everyFit := by
  rw [Bool.eq_iff_iff]
  constructor
  · rintro rfl
    refine allFit_eq_true (fun id member clipId clip clipFound => ?_) found
    exact isFit_of_allFit otherFound (perm.mem_iff.mpr member) clipId clipFound
  · rintro rfl
    refine allFit_eq_true (fun id member clipId clip clipFound => ?_) otherFound
    exact isFit_of_allFit found (perm.mem_iff.mp member) clipId clipFound

/-- A clip of the timeline does not fit. -/
def HasUnfitClip (template : Template α) : Prop :=
  ∃ group ∈ template.timeline, ∃ layer ∈ group.2, ∃ id ∈ layer.clips, id ≠ Layer.padding ∧
    ∃ clip, template.clip id = .ok clip ∧ clip.isFit = false

variable [Scalar α]

/-- Every group of the timeline keeps its layers and gets its start in seconds. -/
theorem starts_eq_ok_iff {starts : Starts α} :
    Timeline.starts template = .ok starts ↔
      List.Forall₂ (fun group start =>
        Duration.ofValue template.scope group.1 = .ok start.1 ∧ group.2 = start.2)
        template.timeline starts := by
  have timed (group : Value α × List Layer) (start : α × List Layer) :
      (do return (← Duration.ofValue template.scope group.1, group.2) :
          Result α (α × List Layer)) = .ok start ↔
        Duration.ofValue template.scope group.1 = .ok start.1 ∧ group.2 = start.2 := by
    simp only [Result.bind_eq_ok_iff, Result.pure_eq_ok_iff, Prod.ext_iff]
    constructor
    · rintro ⟨_, seconds, rfl, same⟩
      exact ⟨seconds, same⟩
    · rintro ⟨seconds, same⟩
      exact ⟨_, seconds, rfl, same⟩
  simp only [Timeline.starts, Result.mapM_eq_ok_iff, timed]

/-- A layer with its start comes from the timeline of the template. -/
theorem exists_of_mem_layers {starts : Starts α} (resolved : Timeline.starts template = .ok starts)
    {start : α} {layer : Layer} (member : (start, layer) ∈ layers starts) :
    ∃ value group, (value, group) ∈ template.timeline ∧ layer ∈ group ∧
      Duration.ofValue template.scope value = .ok start := by
  simp only [layers, List.mem_flatMap, List.mem_map] at member
  rcases member with ⟨_, groupMem, _, layerMem, same⟩
  cases same
  obtain ⟨⟨value, group⟩, itemMem, seconds, same⟩ :=
    Result.exists_of_forall₂_of_mem (starts_eq_ok_iff.mp resolved).flip groupMem
  rw [← same] at layerMem
  exact ⟨value, group, itemMem, layerMem, seconds⟩

/-- A layer of the timeline gets a start. -/
theorem exists_mem_layers {starts : Starts α} (resolved : Timeline.starts template = .ok starts)
    {group : Value α × List Layer} (groupMem : group ∈ template.timeline) {layer : Layer}
    (inGroup : layer ∈ group.2) : ∃ start, (start, layer) ∈ layers starts := by
  obtain ⟨⟨start, listed⟩, startMem, _, same⟩ :=
    Result.exists_of_forall₂_of_mem (starts_eq_ok_iff.mp resolved) groupMem
  rw [same] at inGroup
  exact ⟨start, List.mem_flatMap.mpr ⟨_, startMem, List.mem_map.mpr ⟨layer, inGroup, rfl⟩⟩⟩

/-- The layers that make up a resolved timeline, all measured and walked under the same
rule and against the same length of the output. -/
structure Resolution (template : Template α) (infos : MediaMap α)
    (timeline : Timeline α) where
  starts : Starts α
  everyFit : Bool
  ends : List α
  rows : List (List (Entry α))
  starts_eq : Timeline.starts template = .ok starts
  everyFit_eq : allFit template ((layers starts).flatMap fun (_, layer) => layer.clips) =
    .ok everyFit
  ends_eq : ((layers starts).mapM fun (start, layer) => do
    return start + (← counted template infos everyFit start layer.clips)) = .ok ends
  total_eq : totalOf everyFit ends = .ok timeline.total
  rows_eq : ((layers starts).mapM fun (start, layer) =>
    entriesFrom template infos everyFit timeline.total layer.zIndex start layer.clips) = .ok rows
  entries_eq : timeline.entries = stacked rows.flatten

theorem exists_resolution {timeline : Timeline α}
    (resolved : template.resolveTimeline infos = .ok timeline) :
    Nonempty (Resolution template infos timeline) := by
  simp only [Template.resolveTimeline, Result.bind_eq_ok_iff, Result.pure_eq_ok_iff] at resolved
  rcases resolved with ⟨starts, starts_eq, everyFit, everyFit_eq, ends, ends_eq, total, total_eq,
    rows, rows_eq, rfl⟩
  exact ⟨⟨starts, everyFit, ends, rows, starts_eq, everyFit_eq, ends_eq, total_eq, rows_eq, rfl⟩⟩

/-- A timeline with a length is resolved. -/
theorem exists_of_map_total {total : α}
    (evaluated : (template.resolveTimeline infos).toOption.map Timeline.total = some total) :
    ∃ timeline, template.resolveTimeline infos = .ok timeline ∧ timeline.total = total := by
  obtain ⟨timeline, found, total_eq⟩ := Option.map_eq_some_iff.mp evaluated
  exact ⟨timeline, Result.toOption_eq_some_iff.mp found, total_eq⟩

namespace Resolution

variable {timeline : Timeline α} (resolution : Resolution template infos timeline)

/-- What makes up a resolved timeline resolves it. -/
theorem resolved (resolution : Resolution template infos timeline) :
    template.resolveTimeline infos = .ok timeline := by
  obtain ⟨starts, everyFit, ends, rows, starts_eq, everyFit_eq, ends_eq, total_eq, rows_eq,
    entries_eq⟩ := resolution
  simp only [Template.resolveTimeline, Result.bind_eq_ok_iff, Result.pure_eq_ok_iff]
  exact ⟨starts, starts_eq, everyFit, everyFit_eq, ends, ends_eq, timeline.total, total_eq, rows,
    rows_eq, by rw [← entries_eq]⟩

/-- Every entry comes from the walk of a layer. -/
theorem exists_layer_of_mem {entry : Entry α} (member : entry ∈ timeline.entries) :
    ∃ start layer entries, (start, layer) ∈ layers resolution.starts ∧
      entriesFrom template infos resolution.everyFit timeline.total layer.zIndex start
        layer.clips = .ok entries ∧
      entry ∈ entries := by
  rw [resolution.entries_eq, stacked, List.mem_mergeSort, List.mem_flatten] at member
  rcases member with ⟨entries, rowMem, member⟩
  rcases Result.exists_item_of_mapM resolution.rows_eq rowMem with
    ⟨⟨start, layer⟩, layerMem, walked⟩
  exact ⟨start, layer, entries, layerMem, walked, member⟩

/-- What is walked of a layer is among the entries. -/
theorem mem_entries_of_mem_row {row : List (Entry α)} {entry : Entry α}
    (inRows : row ∈ resolution.rows) (inRow : entry ∈ row) : entry ∈ timeline.entries := by
  rw [resolution.entries_eq, stacked, List.mem_mergeSort, List.mem_flatten]
  exact ⟨row, inRows, inRow⟩

/-- Every entry is a clip that is played where the entry begins. -/
theorem exists_played_of_mem {entry : Entry α} (member : entry ∈ timeline.entries) :
    ∃ clip timing rest, template.clip entry.clipId = .ok clip ∧
      Timing.ofClip template.scope clip (infos.lookup entry.clipId) entry.startAt = .ok timing ∧
      played template infos resolution.everyFit timeline.total entry.startAt clip timing rest =
        .ok (some (entry.duration, entry.trimStart)) ∧
      entry.speed = timing.speed := by
  obtain ⟨_, _, _, _, walked, inRow⟩ := resolution.exists_layer_of_mem member
  exact exists_played_of_mem_row walked entry inRow

/-- If all clips fit, so does each one in a layer. -/
theorem isFit_of_mem (allFit : resolution.everyFit = true) {start : α} {layer : Layer}
    (member : (start, layer) ∈ layers resolution.starts) {id : String} (inLayer : id ∈ layer.clips)
    (clipId : id ≠ Layer.padding) {clip : Clip α} (found : template.clip id = .ok clip) :
    clip.isFit = true := by
  have everyFit_eq := resolution.everyFit_eq
  rw [allFit] at everyFit_eq
  exact isFit_of_allFit everyFit_eq (List.mem_flatMap.mpr ⟨_, member, inLayer⟩) clipId found

/-- The clips that fit are left out of the measure if any clip of the timeline does not. -/
theorem everyFit_eq_false_iff : resolution.everyFit = false ↔ HasUnfitClip template := by
  constructor
  · intro mode
    by_contra fits
    have allFit := allFit_eq_true (fun id member clipId clip found => ?_) resolution.everyFit_eq
    · rw [mode] at allFit
      contradiction
    · obtain ⟨⟨start, layer⟩, placed, inLayer⟩ := List.mem_flatMap.mp member
      obtain ⟨value, group, groupMem, inGroup, _⟩ :=
        exists_of_mem_layers resolution.starts_eq placed
      by_contra unfit
      exact fits ⟨(value, group), groupMem, layer, inGroup, id, inLayer, clipId, clip, found,
        by simpa using unfit⟩
  · rintro ⟨group, groupMem, layer, layerMem, id, inLayer, clipId, clip, found, unfit⟩
    obtain ⟨start, placed⟩ := exists_mem_layers resolution.starts_eq groupMem layerMem
    by_contra mode
    have isFit := resolution.isFit_of_mem (by simpa using mode) placed inLayer clipId found
    rw [unfit] at isFit
    contradiction

end Resolution

/-- A timeline with a length is resolved, and its entries are those of its layers if these are
in the order of the stack already. -/
theorem exists_of_rows {total : α} {starts : Starts α} {everyFit : Bool}
    {rows : List (List (Entry α))}
    (evaluated : (template.resolveTimeline infos).toOption.map Timeline.total = some total)
    (starts_eq : Timeline.starts template = .ok starts)
    (everyFit_eq : allFit template ((layers starts).flatMap fun (_, layer) => layer.clips) =
      .ok everyFit)
    (walked : List.Forall₂ (fun placed row =>
      entriesFrom template infos everyFit total placed.2.zIndex placed.1 placed.2.clips = .ok row)
      (layers starts) rows)
    (ordered : rows.flatten.Pairwise fun below above => below.zIndex ≤ above.zIndex) :
    ∃ timeline, template.resolveTimeline infos = .ok timeline ∧ timeline.total = total ∧
      timeline.entries = rows.flatten := by
  obtain ⟨timeline, resolved, rfl⟩ := exists_of_map_total evaluated
  refine ⟨timeline, resolved, rfl, ?_⟩
  obtain ⟨_, _, _, _, startsResolved, modeFound, _, _, rows_eq, entries_eq⟩ :=
    exists_resolution resolved
  cases starts_eq.symm.trans startsResolved
  cases everyFit_eq.symm.trans modeFound
  cases (Result.mapM_eq_ok_iff.mpr walked).symm.trans rows_eq
  rw [entries_eq, stacked, List.mergeSort_of_pairwise (ordered.imp decide_eq_true)]

end Resolving

/-! ## The length of the output -/

/-- The output is not without a length. -/
theorem totalOf_pos {everyFit : Bool} {ends : List ℚ} {total : ℚ}
    (measured : totalOf everyFit ends = .ok total) : 0 < total := by
  unfold totalOf at measured
  extract_lets longest at measured
  split at measured
  · rename_i positive
    have total_eq : longest = total := Except.ok.inj measured
    rw [← total_eq]
    simpa using positive
  · cases measured

/-- Unless all clips fit, the output ends with the layer that ends last. -/
theorem greatest_of_totalOf {ends : List ℚ} {total : ℚ} (measured : totalOf false ends = .ok total) :
    total ∈ ends ∧ ∀ layerEnd ∈ ends, layerEnd ≤ total := by
  cases ends with
  | nil => simp [totalOf, Timing.refuse] at measured
  | cons first rest =>
      simp only [totalOf, Bool.false_eq_true, if_false] at measured
      split at measured
      · cases measured
        exact ⟨Scalar.greatest_rat_mem first rest, Scalar.le_greatest_rat first rest⟩
      · cases measured

/-- If all clips fit, the output ends with the layer that ends first. -/
theorem least_of_totalOf {ends : List ℚ} {total : ℚ} (measured : totalOf true ends = .ok total) :
    total ∈ ends ∧ ∀ layerEnd ∈ ends, total ≤ layerEnd := by
  cases ends with
  | nil => simp [totalOf, Timing.refuse] at measured
  | cons first rest =>
      simp only [totalOf, if_true] at measured
      split at measured
      · cases measured
        exact ⟨Scalar.least_rat_mem first rest, Scalar.least_rat_le first rest⟩
      · cases measured

/-- The length of the output does not depend on the order of the layers. -/
theorem totalOf_eq_of_perm (everyFit : Bool) {ends others : List ℚ} (perm : others.Perm ends) :
    totalOf everyFit others = totalOf everyFit ends := by
  cases ends with
  | nil => rw [perm.eq_nil]
  | cons first rest =>
      cases others with
      | nil => cases perm.length_eq
      | cons other others =>
          simp only [totalOf, Scalar.greatest_eq_of_perm perm, Scalar.least_eq_of_perm perm]

/-- Unless all clips fit, every layer has been measured and ends within the output. -/
theorem Resolution.measured_of_mem {template : Template ℚ} {infos : MediaMap ℚ}
    {timeline : Timeline ℚ} (resolution : Resolution template infos timeline)
    (ordinary : resolution.everyFit = false) {start : ℚ} {layer : Layer}
    (member : (start, layer) ∈ layers resolution.starts) :
    ∃ length, counted template infos false start layer.clips = .ok length ∧
      start + length ≤ timeline.total := by
  rcases Result.exists_value_of_mapM resolution.ends_eq member with
    ⟨layerEnd, endMem, ended⟩
  rcases Result.bind_eq_ok_iff.mp ended with ⟨length, measured, same⟩
  cases Result.pure_eq_ok_iff.mp same
  have total_eq := resolution.total_eq
  rw [ordinary] at measured total_eq
  exact ⟨length, measured, (greatest_of_totalOf total_eq).2 _ endMem⟩

/-- Unless all clips fit, a layer has been measured to end with the output. -/
theorem Resolution.exists_measured_eq {template : Template ℚ} {infos : MediaMap ℚ}
    {timeline : Timeline ℚ} (resolution : Resolution template infos timeline)
    (ordinary : resolution.everyFit = false) :
    ∃ placed ∈ layers resolution.starts, ∃ length,
      counted template infos false placed.1 placed.2.clips = .ok length ∧
      placed.1 + length = timeline.total := by
  have total_eq := resolution.total_eq
  rw [ordinary] at total_eq
  obtain ⟨placed, member, ended⟩ :=
    Result.exists_item_of_mapM resolution.ends_eq (greatest_of_totalOf total_eq).1
  rcases Result.bind_eq_ok_iff.mp ended with ⟨length, measured, same⟩
  rw [ordinary] at measured
  exact ⟨placed, member, length, measured, Result.pure_eq_ok_iff.mp same⟩

/-- Every clip of a resolved timeline exists. -/
theorem Resolution.exists_clip_of_mem {template : Template ℚ} {infos : MediaMap ℚ}
    {timeline : Timeline ℚ} (resolution : Resolution template infos timeline) {id : String}
    (member : id ∈ (layers resolution.starts).flatMap fun (_, layer) => layer.clips)
    (clipId : id ≠ Layer.padding) : ∃ clip, template.clip id = .ok clip := by
  obtain ⟨⟨start, layer⟩, placed, inLayer⟩ := List.mem_flatMap.mp member
  obtain ⟨_, _, ended⟩ := Result.exists_value_of_mapM resolution.ends_eq placed
  obtain ⟨_, measured, _⟩ := Result.bind_eq_ok_iff.mp ended
  exact exists_clip_of_counted measured id inLayer clipId

end Montage.Timeline
