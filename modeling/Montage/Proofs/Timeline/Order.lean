import Montage.Proofs.Timeline.Bounds
import Montage.Proofs.Timeline.Stack

/-!
# The order of layers

All that a layer takes from the other layers is the length of the output and whether all
clips fit.  Neither depends on the order of the layers: the length is an extreme of their
ends, and a fault of a layer is one in any order.  So layers may be listed in any order.
They keep the same entries, and where every layer is on a level of its own even the stack is
the same, because on each level it has the entries of one layer.
-/

namespace Montage.Timeline

/-! ## One layer -/

section Rows

variable {α : Type} [Scalar α] {template : Template α} {infos : MediaMap α}

/-- A template with another timeline. -/
def retimed (template : Template α) (groups : List (Value α × List Layer)) : Template α :=
  { template with timeline := groups }

omit [Scalar α] in
theorem allFit_retimed (groups : List (Value α × List Layer)) (row : List String) :
    allFit (retimed template groups) row = allFit template row := by
  induction row with
  | nil => rfl
  | cons id rest ih =>
      simp only [allFit, ih]
      rfl

theorem countedFrom_retimed (groups : List (Value α × List Layer)) (everyFit : Bool)
    (position added : α) (row : List String) :
    countedFrom (retimed template groups) infos everyFit position added row =
      countedFrom template infos everyFit position added row := by
  induction row generalizing added with
  | nil => rfl
  | cons id rest ih =>
      simp only [countedFrom, ih]
      rfl

theorem counted_retimed (groups : List (Value α × List Layer)) (everyFit : Bool) (position : α)
    (row : List String) :
    counted (retimed template groups) infos everyFit position row =
      counted template infos everyFit position row :=
  countedFrom_retimed groups everyFit position 0 row

theorem entriesFrom_retimed (groups : List (Value α × List Layer)) (everyFit : Bool) (total : α)
    (zIndex : Int) (position : α) (row : List String) :
    entriesFrom (retimed template groups) infos everyFit total zIndex position row =
      entriesFrom template infos everyFit total zIndex position row := by
  induction row generalizing position with
  | nil => rfl
  | cons id rest ih =>
      simp only [entriesFrom, played, counted_retimed, ih]
      rfl

/-- The entries of a layer with its start, none if it has a fault. -/
def rowOf (template : Template α) (infos : MediaMap α) (everyFit : Bool) (total : α)
    (placed : α × Layer) : List (Entry α) :=
  match entriesFrom template infos everyFit total placed.2.zIndex placed.1 placed.2.clips with
  | .ok entries => entries
  | .error _ => []

theorem rowOf_retimed (groups : List (Value α × List Layer)) :
    rowOf (retimed template groups) infos = rowOf template infos := by
  funext everyFit total placed
  rw [rowOf, rowOf, entriesFrom_retimed]

theorem zIndex_of_mem_rowOf {everyFit : Bool} {total : α} {placed : α × Layer} :
    ∀ entry ∈ rowOf template infos everyFit total placed, entry.zIndex = placed.2.zIndex := by
  rw [rowOf]
  split
  · rename_i walked
    exact zIndex_of_mem_row walked
  · simp

/-- The entries of a resolved timeline are those of its layers, each by itself. -/
theorem Resolution.isStack {timeline : Timeline α}
    (resolution : Resolution template infos timeline) :
    IsStack
      ((layers resolution.starts).flatMap
        (rowOf template infos resolution.everyFit timeline.total))
      timeline.entries := by
  have rows_eq : resolution.rows = (layers resolution.starts).map
      (rowOf template infos resolution.everyFit timeline.total) := by
    refine Result.eq_map_of_mapM (fun placed row walked => ?_) resolution.rows_eq
    simp only [rowOf, walked]
  rw [resolution.entries_eq, rows_eq, ← List.flatMap_def]
  exact isStack_stacked _

end Rows

/-! ## Other orders -/

section Orders

variable {κ : Type} {groups others : List (κ × List Layer)}

/-- Two groups with the same start and with the same layers, maybe in another order. -/
def SameLayers (group other : κ × List Layer) : Prop :=
  group.1 = other.1 ∧ group.2.Perm other.2

/-- The same groups of layers in another order, and the layers of each of them in another
order as well. -/
def Rearranged (groups others : List (κ × List Layer)) : Prop :=
  ∃ inner, List.Forall₂ SameLayers groups inner ∧ inner.Perm others

theorem Rearranged.symm (rearranged : Rearranged groups others) : Rearranged others groups := by
  obtain ⟨inner, same, perm⟩ := rearranged
  have back : List.Forall₂ SameLayers inner groups :=
    same.flip.imp fun _ _ related => ⟨related.1.symm, related.2.symm⟩
  exact List.perm_comp_forall₂ perm.symm back

end Orders

variable {template : Template ℚ} {infos : MediaMap ℚ} {starts others : Starts ℚ}
variable {groups otherGroups : List (Value ℚ × List Layer)}

/-- Rearranged groups have the same layers in another order. -/
theorem Rearranged.layers_perm (rearranged : Rearranged starts others) :
    (layers others).Perm (layers starts) := by
  obtain ⟨inner, same, perm⟩ := rearranged
  refine (perm.symm.flatMap_right _).trans ?_
  clear perm
  induction same with
  | nil => rfl
  | @cons group other _ _ related _ ih =>
      obtain ⟨start, listed⟩ := group
      obtain ⟨_, otherListed⟩ := other
      obtain ⟨rfl, perm⟩ := related
      exact (perm.symm.map _).append ih

/-- The starts of a template with another timeline are those of the groups in it. -/
theorem starts_retimed_eq_ok_iff :
    Timeline.starts (retimed template groups) = .ok starts ↔
      List.Forall₂ (fun group start =>
        Duration.ofValue template.scope group.1 = .ok start.1 ∧ group.2 = start.2) groups starts :=
  starts_eq_ok_iff

/-- Groups with the same layers in another order have the same starts. -/
private theorem exists_starts_of_forall₂
    (same : List.Forall₂ SameLayers groups otherGroups)
    (starts_eq : Timeline.starts (retimed template groups) = .ok starts) :
    ∃ others, Timeline.starts (retimed template otherGroups) = .ok others ∧
      List.Forall₂ SameLayers starts others := by
  simp only [starts_retimed_eq_ok_iff] at starts_eq ⊢
  induction same generalizing starts with
  | nil =>
      cases starts_eq
      exact ⟨[], .nil, .nil⟩
  | @cons group other groups otherGroups related _ ih =>
      obtain ⟨start, starts, ⟨seconds, kept⟩, timed, rfl⟩ := List.forall₂_cons_left_iff.mp starts_eq
      obtain ⟨others, othersTimed, startsSame⟩ := ih timed
      obtain ⟨start_eq, perm⟩ := related
      rw [start_eq] at seconds
      rw [kept] at perm
      exact ⟨(start.1, other.2) :: others, .cons ⟨seconds, rfl⟩ othersTimed,
        .cons ⟨rfl, perm⟩ startsSame⟩

/-- Rearranged groups have starts that are rearranged in the same way. -/
theorem Rearranged.exists_starts (rearranged : Rearranged groups otherGroups)
    (starts_eq : Timeline.starts (retimed template groups) = .ok starts) :
    ∃ others, Timeline.starts (retimed template otherGroups) = .ok others ∧
      Rearranged starts others := by
  obtain ⟨inner, same, perm⟩ := rearranged
  obtain ⟨innerStarts, timed, startsSame⟩ := exists_starts_of_forall₂ same starts_eq
  obtain ⟨others, othersTimed, othersPerm⟩ := Result.exists_mapM_of_perm perm.symm timed
  exact ⟨others, othersTimed, innerStarts, startsSame, othersPerm.symm⟩

/-- The levels of the layers are those of the groups. -/
theorem map_zIndex_layers (starts_eq : Timeline.starts (retimed template groups) = .ok starts) :
    ((layers starts).map fun placed => placed.2.zIndex) =
      (groups.flatMap Prod.snd).map Layer.zIndex := by
  rw [starts_retimed_eq_ok_iff] at starts_eq
  induction starts_eq with
  | nil => rfl
  | @cons group start groups starts timed _ ih =>
      simp only [layers, List.flatMap_cons, List.map_append] at ih ⊢
      rw [ih, timed.2, List.map_map]
      rfl

/-- If a timeline is resolved, so is a rearranged one, with the same length of the output, under
the same rule for clips that fit, and with the same layers. -/
theorem Rearranged.exists_resolution {timeline : Timeline ℚ}
    (rearranged : Rearranged groups otherGroups)
    (resolution : Resolution (retimed template groups) infos timeline) :
    ∃ other, ∃ otherResolution : Resolution (retimed template otherGroups) infos other,
      other.total = timeline.total ∧ otherResolution.everyFit = resolution.everyFit ∧
      (layers otherResolution.starts).Perm (layers resolution.starts) := by
  obtain ⟨others, others_eq, startsRearranged⟩ := rearranged.exists_starts resolution.starts_eq
  have perm := startsRearranged.layers_perm
  have clipsPerm := perm.flatMap_right fun placed => placed.2.clips
  have everyFit_eq : allFit (retimed template otherGroups)
      ((layers others).flatMap fun placed => placed.2.clips) = .ok resolution.everyFit := by
    obtain ⟨everyFit, found⟩ := exists_allFit fun id member clipId =>
      resolution.exists_clip_of_mem (clipsPerm.mem_iff.mp member) clipId
    rw [allFit_eq_of_perm clipsPerm resolution.everyFit_eq found] at found
    rw [allFit_retimed, ← allFit_retimed groups, found]
  obtain ⟨ends, ends_eq, endsPerm⟩ := Result.exists_mapM_of_perm perm resolution.ends_eq
  obtain ⟨rows, rows_eq, _⟩ := Result.exists_mapM_of_perm perm resolution.rows_eq
  have total_eq : totalOf resolution.everyFit ends = .ok timeline.total :=
    (totalOf_eq_of_perm resolution.everyFit endsPerm).trans resolution.total_eq
  let otherResolution : Resolution (retimed template otherGroups) infos
      ⟨stacked rows.flatten, timeline.total⟩ :=
    { starts := others
      everyFit := resolution.everyFit
      ends
      rows
      starts_eq := others_eq
      everyFit_eq
      ends_eq := by simpa only [counted_retimed] using ends_eq
      total_eq
      rows_eq := by simpa only [entriesFrom_retimed] using rows_eq
      entries_eq := rfl }
  exact ⟨_, otherResolution, rfl, rfl, perm⟩

/-- The entries of a rearranged timeline are the same in another order, and in the same order if
every layer is on a level of its own. -/
theorem Rearranged.entries_same {timeline other : Timeline ℚ}
    (rearranged : Rearranged groups otherGroups)
    (resolved : (retimed template groups).resolveTimeline infos = .ok timeline)
    (otherResolved : (retimed template otherGroups).resolveTimeline infos = .ok other) :
    other.total = timeline.total ∧ other.entries.Perm timeline.entries ∧
      (((groups.flatMap Prod.snd).map Layer.zIndex).Nodup → other.entries = timeline.entries) := by
  obtain ⟨resolution⟩ := Timeline.exists_resolution resolved
  obtain ⟨found, otherResolution, total_eq, everyFit_eq, perm⟩ :=
    rearranged.exists_resolution resolution
  cases otherResolved.symm.trans otherResolution.resolved
  have stack := resolution.isStack
  have otherStack := otherResolution.isStack
  rw [everyFit_eq, total_eq, rowOf_retimed] at otherStack
  rw [rowOf_retimed] at stack
  refine ⟨total_eq, ?_, fun distinct => ?_⟩
  · exact otherStack.perm.trans ((perm.flatMap_right _).trans stack.perm.symm)
  · rw [← map_zIndex_layers resolution.starts_eq] at distinct
    exact otherStack.eq stack
      (level_flatMap_eq_of_perm (fun _ => zIndex_of_mem_rowOf) distinct perm)

/-- Layers are independent of each other and of their order.  The entries of a layer follow from
the layer, its start, the length of the output and whether all clips fit.  A rearranged
timeline is resolved exactly if the timeline is, with the same length of the output and the
same entries, which are in the same order if every layer is on a level of its own. -/
theorem resolveTimeline_rearranged (template : Template ℚ) (infos : MediaMap ℚ) :
    (∃ row : Bool → ℚ → ℚ × Layer → List (Entry ℚ), ∀ groups timeline,
      (retimed template groups).resolveTimeline infos = .ok timeline →
      ∃ starts everyFit, Timeline.starts (retimed template groups) = .ok starts ∧
        (everyFit = false ↔ HasUnfitClip (retimed template groups)) ∧
        IsStack ((layers starts).flatMap (row everyFit timeline.total)) timeline.entries) ∧
    ∀ groups others, Rearranged groups others →
      ((∃ timeline, (retimed template groups).resolveTimeline infos = .ok timeline) ↔
        ∃ timeline, (retimed template others).resolveTimeline infos = .ok timeline) ∧
      ∀ timeline other, (retimed template groups).resolveTimeline infos = .ok timeline →
        (retimed template others).resolveTimeline infos = .ok other →
        other.total = timeline.total ∧ other.entries.Perm timeline.entries ∧
          (((groups.flatMap Prod.snd).map Layer.zIndex).Nodup →
            other.entries = timeline.entries) := by
  have resolves {groups others : List (Value ℚ × List Layer)}
      (rearranged : Rearranged groups others)
      (resolved : ∃ timeline, (retimed template groups).resolveTimeline infos = .ok timeline) :
      ∃ timeline, (retimed template others).resolveTimeline infos = .ok timeline := by
    obtain ⟨timeline, resolved⟩ := resolved
    obtain ⟨resolution⟩ := exists_resolution resolved
    obtain ⟨other, otherResolution, _⟩ := rearranged.exists_resolution resolution
    exact ⟨other, otherResolution.resolved⟩
  refine ⟨⟨rowOf template infos, fun groups timeline resolved => ?_⟩,
    fun groups others rearranged => ⟨⟨resolves rearranged, resolves rearranged.symm⟩,
      fun timeline other => rearranged.entries_same⟩⟩
  obtain ⟨resolution⟩ := exists_resolution resolved
  refine ⟨resolution.starts, resolution.everyFit, resolution.starts_eq,
    resolution.everyFit_eq_false_iff, ?_⟩
  rw [← rowOf_retimed groups]
  exact resolution.isStack

/-! ## Groups in two orders -/

/-- A layer with a padding and a layer above it, and later a layer between them. -/
def someGroups : List (Value ℚ × List Layer) :=
  [(.number 0, [⟨["opening", "PAD", "title"], 0⟩, ⟨["long"], 2⟩]),
    (.number 1, [⟨["title"], 1⟩])]

/-- The same groups in another order. -/
def sameGroups : List (Value ℚ × List Layer) :=
  [(.number 1, [⟨["title"], 1⟩]),
    (.number 0, [⟨["long"], 2⟩, ⟨["opening", "PAD", "title"], 0⟩])]

theorem rearranged_someGroups : Rearranged someGroups sameGroups :=
  ⟨sameGroups.reverse, .cons ⟨rfl, .swap _ _ _⟩ (.cons ⟨rfl, .rfl⟩ .nil), .swap _ _ _⟩

theorem resolveTimeline_someGroups :
    ∃ timeline other,
      (retimed paddedTemplate someGroups).resolveTimeline paddedInfos = .ok timeline ∧
      (retimed paddedTemplate sameGroups).resolveTimeline paddedInfos = .ok other ∧
      other.total = 10 ∧ other.entries = timeline.entries := by
  have evaluated : ((retimed paddedTemplate someGroups).resolveTimeline
      paddedInfos).toOption.map Timeline.total = some 10 := by
    decide +kernel
  obtain ⟨timeline, resolved, total_eq⟩ := exists_of_map_total evaluated
  obtain ⟨_, rearranged⟩ := resolveTimeline_rearranged paddedTemplate paddedInfos
  obtain ⟨resolves, same⟩ := rearranged someGroups sameGroups rearranged_someGroups
  obtain ⟨other, otherResolved⟩ := resolves.mp ⟨timeline, resolved⟩
  obtain ⟨sameTotal, _, sameOrder⟩ := same timeline other resolved otherResolved
  exact ⟨timeline, other, resolved, otherResolved, sameTotal.trans total_eq,
    sameOrder (by decide)⟩

end Montage.Timeline
