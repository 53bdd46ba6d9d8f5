import Montage.Proofs.Command.Wiring
import Montage.Proofs.Plan
import Montage.Proofs.Timeline.Progress
import Montage.Proofs.Timeline.Runs
import Montage.Proofs.Zoompan.Speed

/-!
# Previews at a cut

The clips of a layer play one after another, and where one ends the next one begins.  In
the whole output a clip is shown up to its end, and at that instant there is no picture of
it any more.  A preview takes the end of a clip for a part of it, so that there is one at
the end of the output.  At every other instant it draws what is shown, but where a layer
has a cut it draws the clip that ends there as well.
-/

namespace Montage

open Timeline

/-! ## Rows of planned clips -/

section Rows

variable {β γ : Type}

/-- What is mapped to rows is made of rows. -/
private theorem exists_rows_of_map_eq {change : β → γ} {items : List β} {rows : List (List γ)}
    (mapped : items.map change = rows.flatten) :
    ∃ parts : List (List β), parts.flatten = items ∧ parts.map (List.map change) = rows := by
  induction rows generalizing items with
  | nil => exact ⟨[], (List.map_eq_nil_iff.mp mapped).symm, rfl⟩
  | cons row rows ih =>
      obtain ⟨front, back, rfl, rfl, backMapped⟩ := List.map_eq_append_iff.mp mapped
      obtain ⟨parts, rfl, rfl⟩ := ih backMapped
      exact ⟨front :: parts, rfl, rfl⟩

/-- What is mapped to rows in another order is made of rows in another order. -/
theorem exists_rows_of_map_perm {change : β → γ} {items : List β} {rows : List (List γ)}
    (perm : (items.map change).Perm rows.flatten) :
    ∃ parts : List (List β), items.Perm parts.flatten ∧ parts.map (List.map change) = rows := by
  have matched : List.Forall₂ (fun image item => image = change item) (items.map change) items :=
    List.forall₂_map_left_iff.mpr (List.forall₂_same.mpr fun _ _ => rfl)
  -- the items in the order of the rows; only these can be cut where the rows are
  obtain ⟨others, mapped, othersPerm⟩ := List.perm_comp_forall₂ perm.symm matched
  have mapped_eq : others.map change = rows.flatten := by
    rw [← List.forall₂_eq_eq_eq, List.forall₂_map_left_iff]
    exact mapped.flip.imp fun _ _ same => same.symm
  obtain ⟨parts, rfl, parts_eq⟩ := exists_rows_of_map_eq mapped_eq
  exact ⟨parts, othersPerm.symm, parts_eq⟩

end Rows

/-- The clips of a plan are those of the layers, each of which has been walked. -/
theorem Plan.exists_rows_of_compile {α : Type} [Scalar α] [Analytic α] {template : Template α}
    {infos : MediaMap α} {canvas : Option Extent} {plan : Plan α}
    (compiled : Plan.compile template infos canvas = .ok plan) :
    ∃ timeline, ∃ resolution : Resolution template infos timeline,
      ∃ rows : List (List (PlannedClip α)), plan.clips.Perm rows.flatten ∧
        rows.map (List.map PlannedClip.entry) = resolution.rows := by
  obtain ⟨timeline, resolved, entries_eq⟩ := exists_timeline_of_compile compiled
  obtain ⟨resolution⟩ := exists_resolution resolved
  have perm : (plan.clips.map PlannedClip.entry).Perm resolution.rows.flatten := by
    rw [entries_eq, resolution.entries_eq]
    exact (isStack_stacked _).perm
  obtain ⟨rows, rowsPerm, rows_eq⟩ := exists_rows_of_map_perm perm
  exact ⟨timeline, resolution, rows, rowsPerm, rows_eq⟩

/-! ## Instants -/

namespace PlannedClip

/-- Whether there is a picture of the clip at an instant of the whole output: from its start
on, and up to its end. -/
def IsShown (instant : ℚ) (clip : PlannedClip ℚ) : Prop :=
  clip.geometry.isSome = true ∧ clip.startAt ≤ instant ∧ instant < clip.entry.endAt

instance (instant : ℚ) : DecidablePred (IsShown instant) :=
  fun _ => inferInstanceAs (Decidable (_ ∧ _ ∧ _))

end PlannedClip

namespace Command

variable {instant : ℚ} {clip before after : PlannedClip ℚ} {row : List (PlannedClip ℚ)}

/-- A preview draws a clip from its start on, up to and with its end. -/
theorem isSeen_iff : isSeen instant clip = true ↔
    clip.geometry.isSome = true ∧ clip.startAt ≤ instant ∧ instant ≤ clip.entry.endAt := by
  have tested : isSeenAt instant clip = .ok (clip.geometry.isSome &&
      Scalar.le clip.startAt instant && Scalar.le instant clip.entry.endAt) := by
    rw [isSeenAt]
    split
    · rename_i begun
      rw [begun]
      rfl
    · rename_i hidden
      rw [eq_false_of_ne_true hidden]
      rfl
  rw [isSeen, tested]
  simp [and_assoc]

/-- Where a clip does not end, a preview draws it just if it is shown. -/
theorem isSeen_iff_isShown_or (nonneg : 0 ≤ clip.duration) :
    isSeen instant clip = true ↔ clip.IsShown instant ∨
      clip.geometry.isSome = true ∧ clip.entry.endAt = instant := by
  rw [isSeen_iff, PlannedClip.IsShown]
  constructor
  · rintro ⟨pictured, begun, lasts⟩
    rcases lasts.lt_or_eq with less | ends
    · exact .inl ⟨pictured, begun, less⟩
    · exact .inr ⟨pictured, ends.symm⟩
  · rintro (⟨pictured, begun, less⟩ | ⟨pictured, rfl⟩)
    · exact ⟨pictured, begun, less.le⟩
    · exact ⟨pictured, le_add_of_nonneg_right nonneg, le_rfl⟩

/-- A row has a cut at an instant: a clip with a picture ends there, and a later one
begins. -/
def HasCut (row : List (PlannedClip ℚ)) (instant : ℚ) : Prop :=
  ∃ before after, [before, after].Sublist row ∧
    before.geometry.isSome = true ∧ after.geometry.isSome = true ∧
    before.entry.endAt = instant ∧ after.startAt = instant

/-- Clips of a row that begin when those before them have ended. -/
structure IsApart (row : List (PlannedClip ℚ)) : Prop where
  nonneg : ∀ clip ∈ row, 0 ≤ clip.duration
  ends_le : row.Pairwise fun before after => before.entry.endAt ≤ after.startAt

/-- Of two clips that are drawn together, one ends at the instant and the other begins. -/
theorem IsApart.pairwise_drawn (apart : IsApart row) (instant : ℚ) :
    (row.filter (isSeen instant)).Pairwise fun before after =>
      before.entry.endAt = instant ∧ after.startAt = instant := by
  refine (apart.ends_le.filter _).imp_of_mem fun {before after} first second ends_le => ?_
  obtain ⟨-, -, lasts⟩ := isSeen_iff.mp (List.mem_filter.mp first).2
  obtain ⟨-, begun, -⟩ := isSeen_iff.mp (List.mem_filter.mp second).2
  exact ⟨le_antisymm (ends_le.trans begun) lasts, le_antisymm begun (lasts.trans ends_le)⟩

/-- More than one clip is drawn exactly at a cut. -/
theorem IsApart.one_lt_length_drawn_iff (apart : IsApart row) (instant : ℚ) :
    1 < (row.filter (isSeen instant)).length ↔ HasCut row instant := by
  constructor
  · intro several
    match drawn_eq : row.filter (isSeen instant), several with
    | before :: after :: rest, _ =>
        have both : [before, after].Sublist (row.filter (isSeen instant)) := by
          rw [drawn_eq]
          simp
        have together := apart.pairwise_drawn instant
        rw [drawn_eq] at together
        obtain ⟨ends, begins⟩ := List.rel_of_pairwise_cons together List.mem_cons_self
        have pictured (clip : PlannedClip ℚ) (member : clip ∈ [before, after]) :
            clip.geometry.isSome = true :=
          (isSeen_iff.mp (List.mem_filter.mp (both.subset member)).2).1
        exact ⟨before, after, both.trans List.filter_sublist, pictured before (by simp),
          pictured after (by simp), ends, begins⟩
  · rintro ⟨before, after, inRow, beforePictured, afterPictured, ends, begins⟩
    have beforeNonneg := apart.nonneg before (inRow.subset (by simp))
    have afterNonneg := apart.nonneg after (inRow.subset (by simp))
    have beforeSeen : isSeen instant before = true :=
      (isSeen_iff_isShown_or beforeNonneg).mpr (.inr ⟨beforePictured, ends⟩)
    have afterSeen : isSeen instant after = true :=
      isSeen_iff.mpr ⟨afterPictured, begins.le, begins ▸ le_add_of_nonneg_right afterNonneg⟩
    have drawn := (inRow.filter (isSeen instant)).length_le
    simp only [List.filter_cons, beforeSeen, afterSeen, if_true, List.filter_nil] at drawn
    exact drawn

private theorem length_le_one_of_alone {β : Type} {items : List β}
    (alone : items.Pairwise fun _ _ => False) : items.length ≤ 1 := by
  match items, alone with
  | [], _ => simp
  | [_], _ => simp
  | _ :: _ :: _, alone => exact (List.rel_of_pairwise_cons alone List.mem_cons_self).elim

/-- No two clips are shown together. -/
theorem IsApart.length_shown_le_one (apart : IsApart row) (instant : ℚ) :
    (row.filter fun clip => clip.IsShown instant).length ≤ 1 := by
  refine length_le_one_of_alone ((apart.ends_le.filter _).imp_of_mem ?_)
  intro before after first second ends_le
  obtain ⟨-, -, lasts⟩ := of_decide_eq_true (List.mem_filter.mp first).2
  obtain ⟨-, begun, -⟩ := of_decide_eq_true (List.mem_filter.mp second).2
  exact absurd (lasts.trans_le (ends_le.trans begun)) (lt_irrefl instant)

end Command

/-! ## Layers -/

namespace Timeline

variable {position : ℚ} {row : List (Entry ℚ)}

/-- Of entries that play back to back each ends before the later ones begin. -/
theorem BackToBack.pairwise (abuts : BackToBack position row)
    (nonneg : ∀ entry ∈ row, 0 ≤ entry.duration) :
    (∀ entry ∈ row, position ≤ entry.startAt) ∧
      row.Pairwise fun before after => before.endAt ≤ after.startAt := by
  induction row generalizing position with
  | nil => simp
  | cons entry row ih =>
      obtain ⟨rfl, behind⟩ := abuts
      rw [List.forall_mem_cons] at nonneg
      obtain ⟨later, apart⟩ := ih behind nonneg.2
      have lasts : entry.startAt ≤ entry.endAt := le_add_of_nonneg_right nonneg.1
      exact ⟨List.forall_mem_cons.mpr ⟨le_rfl, fun other member => lasts.trans (later other member)⟩,
        List.pairwise_cons.mpr ⟨later, apart⟩⟩

/-- A layer without paddings plays back to back. -/
theorem Plays.backToBack {template : Template ℚ} {infos : MediaMap ℚ} {zIndex : ℤ}
    {clips : List String} (plays : Plays template infos zIndex position clips row)
    (unpadded : Layer.padding ∉ clips) : BackToBack position row := by
  cases plays with
  | run _ _ abuts => exact abuts
  | padded => simp at unpadded

end Timeline

namespace Command

/-- What a preview draws of a layer, whose clips in the plan are `row`. -/
structure DrawsLayer (template : Template ℚ) (infos : MediaMap ℚ) (placed : ℚ × Layer)
    (row : List (PlannedClip ℚ)) : Prop where
  plays : Plays template infos placed.2.zIndex placed.1 placed.2.clips
    (row.map PlannedClip.entry)
  /-- A clip is drawn at the instants of the whole output at which it is shown, and at its
  end. -/
  isSeen_iff : GoesForward template infos placed.2.clips → ∀ clip ∈ row, ∀ instant,
    isSeen instant clip = true ↔ clip.IsShown instant ∨
      clip.geometry.isSome = true ∧ clip.entry.endAt = instant
  /-- Of clips that are drawn together, the earlier one ends at the instant, or behind it
  by less than a padding may pull back the later one. -/
  together : GoesForward template infos placed.2.clips → ∀ instant,
    (row.filter (isSeen instant)).Pairwise fun before after =>
      after.startAt ≤ instant ∧ instant ≤ before.entry.endAt ∧ Follows before.entry after.entry
  /-- Without paddings more than one clip is drawn exactly at a cut. -/
  several_iff : GoesForward template infos placed.2.clips → Layer.padding ∉ placed.2.clips →
    ∀ instant, 1 < (row.filter (isSeen instant)).length ↔ HasCut row instant
  /-- The whole output never shows more than one. -/
  shown_le_one : GoesForward template infos placed.2.clips → Layer.padding ∉ placed.2.clips →
    ∀ instant, (row.filter fun clip => clip.IsShown instant).length ≤ 1

theorem drawsLayer_of_entriesFrom {template : Template ℚ} {infos : MediaMap ℚ} {everyFit : Bool}
    {total start : ℚ} {layer : Layer} {row : List (PlannedClip ℚ)}
    (bounded : IsBounded template infos everyFit total layer.clips)
    (walked : entriesFrom template infos everyFit total layer.zIndex start layer.clips =
      .ok (row.map PlannedClip.entry)) : DrawsLayer template infos (start, layer) row := by
  have nonneg (forward : GoesForward template infos layer.clips) (clip : PlannedClip ℚ)
      (member : clip ∈ row) : 0 ≤ clip.duration :=
    duration_nonneg_of_mem_row forward walked clip.entry (List.mem_map_of_mem member)
  have apart (forward : GoesForward template infos layer.clips)
      (unpadded : Layer.padding ∉ layer.clips) : IsApart row := by
    have abuts := (plays_of_entriesFrom walked).backToBack unpadded
    have ends_le := (abuts.pairwise (duration_nonneg_of_mem_row forward walked)).2
    exact ⟨nonneg forward, List.pairwise_map.mp ends_le⟩
  exact {
    plays := plays_of_entriesFrom walked
    isSeen_iff := fun forward clip member _ => isSeen_iff_isShown_or (nonneg forward clip member)
    together := fun forward instant => by
      have follow := (pairwise_follows_of_entriesFrom bounded forward walked).1
      refine ((List.pairwise_map.mp follow).filter _).imp_of_mem ?_
      intro before after first second follows
      obtain ⟨-, -, lasts⟩ := Command.isSeen_iff.mp (List.mem_filter.mp first).2
      obtain ⟨-, begun, -⟩ := Command.isSeen_iff.mp (List.mem_filter.mp second).2
      exact ⟨begun, lasts, follows⟩
    several_iff := fun forward unpadded => (apart forward unpadded).one_lt_length_drawn_iff
    shown_le_one := fun forward unpadded => (apart forward unpadded).length_shown_le_one }

/-- A preview draws the clips of each layer that are shown at its instant, and those that end
at it, so that it draws more than one clip of a layer exactly at the cuts of the layer. -/
theorem drawsLayer_rows [Analytic ℚ] {template : Template ℚ} {infos : MediaMap ℚ}
    {canvas : Option Extent} {plan : Plan ℚ}
    (compiled : Plan.compile template infos canvas = .ok plan) :
    (∀ instant command, preview plan instant = .ok command →
      command.IsWellFormed (plan.clips.filter (isSeen instant))) ∧
    ∃ starts rows, Timeline.starts template = .ok starts ∧ plan.clips.Perm rows.flatten ∧
      List.Forall₂ (DrawsLayer template infos) (layers starts) rows := by
  refine ⟨fun instant command built => isWellFormed_of_preview built, ?_⟩
  obtain ⟨timeline, resolution, rows, perm, rows_eq⟩ := Plan.exists_rows_of_compile compiled
  refine ⟨resolution.starts, rows, resolution.starts_eq, perm, ?_⟩
  have walked := resolution.rows_eq
  rw [← rows_eq, Result.mapM_eq_ok_iff, List.forall₂_map_right_iff] at walked
  refine ((List.forall₂_and_left _ _).mpr ⟨fun _ member => member, walked⟩).imp ?_
  rintro ⟨start, layer⟩ row ⟨placed, walked⟩
  exact drawsLayer_of_entriesFrom (resolution.isBounded_of_mem placed) walked

/-! ## A layer with one cut -/

/-- A template with two clips that play one after the other. -/
def pairSource : Value ℚ :=
  .map
    [(.text "clips", .list
      [.map [(.text "id", .text "first"), (.text "file", .text "first.mp4")],
        .map [(.text "id", .text "second"), (.text "file", .text "second.mp4")]]),
      (.text "timeline", .map [(.number 0, .list [.list [.text "first", .text "second"]])]),
      (.text "preview", .number 3)]

/-- The template that is read from it. -/
def pairTemplate : Template ℚ where
  clips := [.plain "first" "/first.mp4", .plain "second" "/second.mp4"]
  size := ⟨.text "100%", .text "100%", some "first", "black"⟩
  timeline := [(.number 0, [⟨["first", "second"], 0⟩])]
  preview := .number 3
  keypoints := []
  directory := ⟨"/", []⟩

/-- The first clip lasts for three seconds, and the second for two. -/
def pairInfos : MediaMap ℚ :=
  [("first", ⟨200, 100, 30, some 3, some 2, false, .video⟩),
    ("second", ⟨200, 100, 30, some 2, some 2, false, .video⟩)]

/-- A clip as it stands in the plan. -/
def pairClip (id : String) (startAt duration : ℚ) : PlannedClip ℚ where
  clipId := id
  file := some ("/" ++ id ++ ".mp4")
  kind := .video
  startAt := startAt
  duration := duration
  trimStart := 0
  speed := 1
  zIndex := 0
  framerate := 30
  hasAudio := false
  geometry := some ⟨0, 0, ⟨200, 100⟩, none, none⟩
  zoompan := []
  retime := false
  smooth := false
  volume := 1
  fadeIn := 0
  fadeOut := 0

def pairPlan : Plan ℚ :=
  ⟨⟨200, 100⟩, "black", 5, 3, [pairClip "first" 0 3, pairClip "second" 3 2]⟩

theorem resolve_pairTemplate : pairTemplate.resolveTimeline pairInfos =
    .ok ⟨[⟨"first", 0, 3, 0, 1, 0⟩, ⟨"second", 3, 2, 0, 1, 0⟩], 5⟩ := by
  have evaluated : (pairTemplate.resolveTimeline pairInfos).toOption.map Timeline.total =
      some 5 := by
    decide +kernel
  have walked : entriesFrom pairTemplate pairInfos false 5 0 0 ["first", "second"] =
      .ok [⟨"first", 0, 3, 0, 1, 0⟩, ⟨"second", 3, 2, 0, 1, 0⟩] :=
    Result.toOption_eq_some_iff.mp (by decide +kernel)
  obtain ⟨⟨entries, total⟩, resolved, rfl, rfl⟩ :=
    exists_of_rows evaluated rfl rfl (.cons walked .nil) (by decide +kernel)
  exact resolved

theorem compile_pairTemplate :
    @Plan.compile ℚ _ unturned pairTemplate pairInfos none = .ok pairPlan := by
  simp only [Plan.compile, Plan.compileOn, resolve_pairTemplate]
  rw [← Result.toOption_eq_some_iff]
  decide +kernel

theorem pairTemplate_goesForward : GoesForward pairTemplate pairInfos ["first", "second"] := by
  rintro id member clipId ⟨clip, length, found, reverses⟩
  simp only [List.mem_cons, List.not_mem_nil, or_false] at member
  rcases member with rfl | rfl <;> cases found <;> cases reverses.given

/-- A preview draws both clips where a clip ends and a later one begins, and nowhere else. -/
theorem drawsLayer_pairTemplate :
    @Plan.compile ℚ _ unturned pairTemplate pairInfos none = .ok pairPlan ∧
      ∃ row, pairPlan.clips.Perm row ∧
        ∀ instant, 1 < (row.filter (isSeen instant)).length ↔ HasCut row instant := by
  obtain ⟨_, starts, rows, starts_eq, perm, draws⟩ :=
    @drawsLayer_rows unturned _ _ _ _ compile_pairTemplate
  cases starts_eq
  obtain ⟨row, _, drawn, ⟨⟩, rfl⟩ := List.forall₂_cons_left_iff.mp draws
  rw [List.flatten_singleton] at perm
  exact ⟨compile_pairTemplate, row, perm,
    drawn.several_iff pairTemplate_goesForward (by decide)⟩

/-- In a template that is read and compiled, a preview at three seconds has both clips of the
layer as its inputs, the first of which is opened at its end.  In the whole output only the
second one is shown then. -/
theorem pairTemplate_draws_both :
    Template.read ⟨"/", []⟩ pairSource = .ok pairTemplate ∧
      @Plan.compile ℚ _ unturned pairTemplate pairInfos none = .ok pairPlan ∧
      (∃ command, @ofPlan ℚ _ unturned pairPlan (.preview (some 3)) "" = .ok command ∧
        command.inputs = [[some "-ss", some "3", some "-i", some "/first.mp4"],
          [some "-ss", some "0", some "-i", some "/second.mp4"]]) ∧
      pairPlan.clips.filter (fun clip => clip.IsShown 3) = [pairClip "second" 3 2] := by
  refine ⟨by with_unfolding_all rfl, compile_pairTemplate, ?_, by decide +kernel⟩
  have evaluated :
      (@ofPlan ℚ _ unturned pairPlan (.preview (some 3)) "").toOption.map Command.inputs =
        some [[some "-ss", some "3", some "-i", some "/first.mp4"],
          [some "-ss", some "0", some "-i", some "/second.mp4"]] := by
    decide +kernel
  obtain ⟨command, built, inputs_eq⟩ := Option.map_eq_some_iff.mp evaluated
  exact ⟨command, Result.toOption_eq_some_iff.mp built, inputs_eq⟩

end Command
end Montage
