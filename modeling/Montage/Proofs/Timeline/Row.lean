import Montage.Proofs.Timeline.Timing
import Montage.Timeline.Basic

/-!
# Rows of the time axis

A row is measured and walked by the same recursion over its ids.  This file says once
what either of them does at the head of a row, which for the walk is so over any numbers,
and what follows for a measured row: measuring goes on where a clip ends, it gives nothing
negative, and at two positions a row counts for as much or up to the same time, so that a row
that begins later counts for no more.
-/

namespace Montage.Timeline

/-! ## Walking -/

section Walking

variable {α : Type} [Scalar α] {template : Template α} {infos : MediaMap α} {everyFit : Bool}
variable {position total : α} {id : String} {rest : List String}

/-- A clip that is played in a row: one that does not fit for as long as it lasts, and
one that fits as the rest of the row leaves room for it. -/
theorem played_cases {clip : Clip α} {timing : Timing α} {length start : α}
    (plays : played template infos everyFit total position clip timing rest =
      .ok (some (length, start))) :
    (clip.isFit = false ∧ length = timing.duration.getD (total - position) ∧
        start = timing.trimStart) ∨
      (clip.isFit = true ∧ ∃ behind,
        counted template infos everyFit position rest = .ok behind ∧
        fitted total position behind (timing.duration.getD (total - position))
          clip.trim.ending.isFit timing = some (length, start)) := by
  simp only [played] at plays
  split at plays
  · cases plays
  · cases fits : clip.isFit with
    | false =>
        rw [if_neg (by simp [fits])] at plays
        cases plays
        exact .inl ⟨rfl, rfl, rfl⟩
    | true =>
        rw [if_pos fits] at plays
        rcases Result.bind_eq_ok_iff.mp plays with ⟨behind, measured, kept⟩
        exact .inr ⟨rfl, behind, measured, Result.pure_eq_ok_iff.mp kept⟩

/-- What a walk does at the head of a row: it moves the cursor at a padding, it leaves a
clip out, or it plays a clip and goes on where the clip ends. -/
theorem entriesFrom_cons_cases {zIndex : Int} {entries : List (Entry α)}
    (walked : entriesFrom template infos everyFit total zIndex position (id :: rest) =
      .ok entries) :
    (id = Layer.padding ∧ ∃ behind,
        counted template infos everyFit position rest = .ok behind ∧
        entriesFrom template infos everyFit total zIndex
          (afterPadding total position behind) rest = .ok entries) ∨
      (id ≠ Layer.padding ∧ ∃ clip timing, template.clip id = .ok clip ∧
        Timing.ofClip template.scope clip (infos.lookup id) position = .ok timing ∧
        ((played template infos everyFit total position clip timing rest = .ok none ∧
            entriesFrom template infos everyFit total zIndex position rest = .ok entries) ∨
          ∃ length start later,
            played template infos everyFit total position clip timing rest =
              .ok (some (length, start)) ∧
            entriesFrom template infos everyFit total zIndex (position + length) rest =
              .ok later ∧
            entries = ⟨id, position, length, start, timing.speed, zIndex⟩ :: later)) := by
  by_cases pad : id = Layer.padding
  · rw [entriesFrom, if_pos (by simpa using pad)] at walked
    rcases Result.bind_eq_ok_iff.mp walked with ⟨behind, measured, walkedRest⟩
    exact .inl ⟨pad, behind, measured, walkedRest⟩
  · rw [entriesFrom, if_neg (by simpa using pad)] at walked
    simp only [Result.bind_eq_ok_iff] at walked
    rcases walked with ⟨clip, found, timing, resolved, playing, plays, walkedRest⟩
    refine .inr ⟨pad, clip, timing, found, resolved, ?_⟩
    cases playing with
    | none => exact .inl ⟨plays, walkedRest⟩
    | some placed =>
        rcases placed with ⟨length, start⟩
        simp only [Result.bind_eq_ok_iff, Result.pure_eq_ok_iff] at walkedRest
        rcases walkedRest with ⟨later, walkedRest, rfl⟩
        exact .inr ⟨length, start, later, plays, walkedRest, rfl⟩

/-- A clip is left out only if it fits or has no length. -/
theorem leftOut_cases {clip : Clip α} {timing : Timing α}
    (leftOut : played template infos everyFit total position clip timing rest = .ok none) :
    clip.isFit = true ∨ timing.duration = none := by
  cases known : timing.duration with
  | none => exact .inr rfl
  | some duration =>
      refine .inl ?_
      by_contra unfit
      simp [played, known, unfit] at leftOut

/-- Every entry of a row is a clip that is played where the entry begins. -/
theorem exists_played_of_mem_row {zIndex : Int} {row : List String} {entries : List (Entry α)}
    (walked : entriesFrom template infos everyFit total zIndex position row = .ok entries) :
    ∀ entry ∈ entries, ∃ clip timing rest, template.clip entry.clipId = .ok clip ∧
      Timing.ofClip template.scope clip (infos.lookup entry.clipId) entry.startAt = .ok timing ∧
      played template infos everyFit total entry.startAt clip timing rest =
        .ok (some (entry.duration, entry.trimStart)) ∧
      entry.speed = timing.speed := by
  induction row generalizing position entries with
  | nil =>
      cases walked
      simp
  | cons id rest ih =>
      rcases entriesFrom_cons_cases walked with
        ⟨_, _, _, walkedRest⟩ | ⟨_, clip, timing, found, resolved, walk⟩
      · exact ih walkedRest
      · rcases walk with ⟨_, walkedRest⟩ | ⟨length, start, later, plays, walkedRest, rfl⟩
        · exact ih walkedRest
        · exact List.forall_mem_cons.mpr
            ⟨⟨clip, timing, rest, found, resolved, plays, rfl⟩, ih walkedRest⟩

/-- An entry of a row plays one of its clips. -/
theorem clipId_mem_of_mem_row {zIndex : Int} {row : List String} {entries : List (Entry α)}
    (walked : entriesFrom template infos everyFit total zIndex position row = .ok entries) :
    ∀ entry ∈ entries, entry.clipId ∈ row ∧ entry.clipId ≠ Layer.padding := by
  induction row generalizing position entries with
  | nil =>
      cases walked
      simp
  | cons id rest ih =>
      have behind {position : α} {later : List (Entry α)}
          (walkedRest : entriesFrom template infos everyFit total zIndex position rest =
            .ok later) :
          ∀ entry ∈ later, entry.clipId ∈ id :: rest ∧ entry.clipId ≠ Layer.padding :=
        fun entry member =>
          (ih walkedRest entry member).imp_left fun inRest => List.mem_cons_of_mem id inRest
      rcases entriesFrom_cons_cases walked with
        ⟨_, _, _, walkedRest⟩ | ⟨clipId, clip, timing, found, resolved, walk⟩
      · exact behind walkedRest
      · rcases walk with ⟨_, walkedRest⟩ | ⟨length, start, later, plays, walkedRest, rfl⟩
        · exact behind walkedRest
        · exact List.forall_mem_cons.mpr ⟨⟨List.mem_cons_self, clipId⟩, behind walkedRest⟩

/-- All entries of a row are on one level. -/
theorem zIndex_of_mem_row {zIndex : Int} {row : List String} {entries : List (Entry α)}
    (walked : entriesFrom template infos everyFit total zIndex position row = .ok entries) :
    ∀ entry ∈ entries, entry.zIndex = zIndex := by
  induction row generalizing position entries with
  | nil =>
      cases walked
      simp
  | cons id rest ih =>
      rcases entriesFrom_cons_cases walked with
        ⟨_, _, _, walkedRest⟩ | ⟨_, _, _, _, _, ⟨_, walkedRest⟩ | ⟨_, _, _, _, walkedRest, rfl⟩⟩
      · exact ih walkedRest
      · exact ih walkedRest
      · exact List.forall_mem_cons.mpr ⟨rfl, ih walkedRest⟩

end Walking

variable {template : Template ℚ} {infos : MediaMap ℚ} {everyFit : Bool}
variable {position total : ℚ} {id : String} {rest row : List String}

/-! ## Measuring -/

/-- What a clip adds to the row that it is in. -/
def weight (everyFit : Bool) (clip : Clip ℚ) (timing : Timing ℚ) : ℚ :=
  if clip.isFit && !everyFit then 0 else timing.duration.getD 0

/-- What has been added so far moves the position and is added in the end. -/
private theorem countedFrom_eq_map (position added : ℚ) (row : List String) :
    countedFrom template infos everyFit position added row =
      (added + ·) <$> counted template infos everyFit (position + added) row := by
  induction row generalizing position added with
  | nil => simp [counted, countedFrom, Functor.map, Except.map]
  | cons id rest ih =>
      by_cases pad : (id == Layer.padding) = true
      · rw [counted, countedFrom, countedFrom, if_pos pad, if_pos pad]
        exact ih position added
      · simp only [counted, countedFrom, if_neg pad, add_zero, zero_add, map_bind]
        congr 1
        funext clip
        congr 1
        funext timing
        cases timing.duration with
        | none => exact ih position added
        | some duration =>
            dsimp only
            split
            · exact ih position added
            · rw [ih position (added + duration), ih (position + added) duration, add_assoc]
              simp [add_assoc]

/-- A padding counts for nothing. -/
theorem counted_cons_padding :
    counted template infos everyFit position (Layer.padding :: rest) =
      counted template infos everyFit position rest := by
  simp [counted, countedFrom]

/-- Behind a clip, measuring goes on where the clip ends, if it counts. -/
theorem counted_cons_clip (clipId : id ≠ Layer.padding) :
    counted template infos everyFit position (id :: rest) = (do
      let clip ← template.clip id
      let timing ← Timing.ofClip template.scope clip (infos.lookup id) position
      (weight everyFit clip timing + ·) <$>
        counted template infos everyFit (position + weight everyFit clip timing) rest) := by
  rw [counted, countedFrom, if_neg (by simpa using clipId), add_zero]
  congr 1
  funext clip
  congr 1
  funext timing
  cases known : timing.duration <;> by_cases uncounted : (clip.isFit && !everyFit) = true <;>
    simp [weight, known, uncounted, countedFrom_eq_map]

/-- What a measured row is made of at its head. -/
theorem counted_cons_cases
    (measured : counted template infos everyFit position (id :: rest) = .ok total) :
    (id = Layer.padding ∧ counted template infos everyFit position rest = .ok total) ∨
      (id ≠ Layer.padding ∧ ∃ clip timing later, template.clip id = .ok clip ∧
        Timing.ofClip template.scope clip (infos.lookup id) position = .ok timing ∧
        counted template infos everyFit (position + weight everyFit clip timing) rest =
          .ok later ∧
        total = weight everyFit clip timing + later) := by
  by_cases pad : id = Layer.padding
  · subst pad
    exact .inl ⟨rfl, counted_cons_padding.symm.trans measured⟩
  · rw [counted_cons_clip pad] at measured
    simp only [Result.bind_eq_ok_iff] at measured
    rcases measured with ⟨clip, found, timing, resolved, mapped⟩
    rcases Result.map_eq_ok_iff.mp mapped with ⟨later, behind, rfl⟩
    exact .inr ⟨pad, clip, timing, later, found, resolved, behind, rfl⟩

/-- A row is measured only if all its clips exist. -/
theorem exists_clip_of_counted
    (measured : counted template infos everyFit position row = .ok total) :
    ∀ id ∈ row, id ≠ Layer.padding → ∃ clip, template.clip id = .ok clip := by
  induction row generalizing position total with
  | nil => simp
  | cons first rest ih =>
      rcases counted_cons_cases measured with
        ⟨pad, behind⟩ | ⟨_, clip, _, _, found, _, behind, _⟩
      · exact List.forall_mem_cons.mpr ⟨fun clipId => absurd pad clipId, ih behind⟩
      · exact List.forall_mem_cons.mpr ⟨fun _ => ⟨clip, found⟩, ih behind⟩

/-- All clips of a row have known lengths. -/
def RowKnown (template : Template ℚ) (infos : MediaMap ℚ) (row : List String) : Prop :=
  ∀ id ∈ row, id ≠ Layer.padding → ∀ clip, template.clip id = .ok clip →
    Timing.HasLength template.scope clip (infos.lookup id)

theorem RowKnown.tail (known : RowKnown template infos (id :: rest)) :
    RowKnown template infos rest :=
  fun other member => known other (List.mem_cons_of_mem id member)

theorem RowKnown.weight_nonneg (known : RowKnown template infos (id :: rest))
    (clipId : id ≠ Layer.padding) {clip : Clip ℚ} {timing : Timing ℚ}
    (found : template.clip id = .ok clip)
    (resolved : Timing.ofClip template.scope clip (infos.lookup id) position = .ok timing) :
    0 ≤ weight everyFit clip timing := by
  rcases (known id List.mem_cons_self clipId clip found).duration_nonneg resolved with
    ⟨duration, duration_eq, nonneg⟩
  rw [weight, duration_eq]
  split
  · exact le_rfl
  · exact nonneg

/-- A row of clips with known lengths does not count for less than nothing. -/
theorem counted_nonneg (known : RowKnown template infos row)
    (measured : counted template infos everyFit position row = .ok total) : 0 ≤ total := by
  induction row generalizing position total with
  | nil =>
      cases measured
      exact le_rfl
  | cons id rest ih =>
      rcases counted_cons_cases measured with
        ⟨_, behind⟩ | ⟨clipId, clip, timing, later, found, resolved, behind, rfl⟩
      · exact ih known.tail behind
      · exact add_nonneg (known.weight_nonneg clipId found resolved) (ih known.tail behind)

/-! ## Measuring at two positions -/

/-- At another position a clip counts for as much, or up to the same time. -/
theorem weight_at_other (everyFit : Bool) {other : ℚ} {clip : Clip ℚ} {first second : Timing ℚ}
    {info : Option (MediaInfo ℚ)}
    (firstResolved : Timing.ofClip template.scope clip info position = .ok first)
    (secondResolved : Timing.ofClip template.scope clip info other = .ok second) :
    weight everyFit clip first = weight everyFit clip second ∨
      position + weight everyFit clip first = other + weight everyFit clip second := by
  by_cases uncounted : (clip.isFit && !everyFit) = true
  · exact .inl (by simp [weight, uncounted])
  · rcases Timing.duration_at_other firstResolved secondResolved with
      same | ⟨before, after, before_eq, after_eq, ends⟩
    · exact .inl (by rw [weight, weight, same])
    · exact .inr (by simpa [weight, uncounted, before_eq, after_eq] using ends)

/-- At another position a row counts for as much, or up to the same time. -/
theorem counted_at_other {other first second : ℚ}
    (firstMeasured : counted template infos everyFit position row = .ok first)
    (secondMeasured : counted template infos everyFit other row = .ok second) :
    first = second ∨ position + first = other + second := by
  induction row generalizing position other first second with
  | nil =>
      cases firstMeasured
      cases secondMeasured
      exact .inl rfl
  | cons id rest ih =>
      rcases counted_cons_cases firstMeasured with
        ⟨pad, behind⟩ | ⟨clipId, clip, timing, after, found, resolved, behind, rfl⟩
      · rcases counted_cons_cases secondMeasured with ⟨_, behind'⟩ | ⟨clipId, _⟩
        · exact ih behind behind'
        · exact absurd pad clipId
      · rcases counted_cons_cases secondMeasured with
          ⟨pad, _⟩ | ⟨_, clip', timing', after', found', resolved', behind', rfl⟩
        · exact absurd pad clipId
        · cases found.symm.trans found'
          rcases weight_at_other everyFit resolved resolved' with same | ends
          · rw [same] at behind ⊢
            rcases ih behind behind' with rfl | ends
            · exact .inl rfl
            · exact .inr (by linarith)
          · -- the clip ends at the same time, and from there on nothing differs
            rw [ends] at behind
            cases behind.symm.trans behind'
            exact .inr (by linarith)

/-- A clip that begins later counts for no more and ends no earlier. -/
theorem weight_of_le (everyFit : Bool) {earlier later : ℚ} {clip : Clip ℚ} {first second : Timing ℚ}
    {info : Option (MediaInfo ℚ)} (order : earlier ≤ later)
    (firstResolved : Timing.ofClip template.scope clip info earlier = .ok first)
    (secondResolved : Timing.ofClip template.scope clip info later = .ok second) :
    weight everyFit clip second ≤ weight everyFit clip first ∧
      earlier + weight everyFit clip first ≤ later + weight everyFit clip second := by
  rcases weight_at_other everyFit firstResolved secondResolved with same | ends
  · exact ⟨same.ge, by linarith⟩
  · exact ⟨by linarith, ends.le⟩

/-- A row that begins later does not count for more. -/
theorem counted_antitone {earlier later first second : ℚ} (order : earlier ≤ later)
    (firstMeasured : counted template infos everyFit earlier row = .ok first)
    (secondMeasured : counted template infos everyFit later row = .ok second) :
    second ≤ first := by
  rcases counted_at_other firstMeasured secondMeasured with same | ends
  · exact same.ge
  · linarith

/-! ## Paddings and clips that fit -/

theorem afterPadding_rat (total position counted : ℚ) :
    afterPadding total position counted =
      if -Scalar.tolerance < total - (position + counted) then total - counted
      else position := by
  by_cases moves : -Scalar.tolerance < total - (position + counted)
  · rw [if_pos moves, afterPadding, if_pos (Scalar.gtApprox_rat_iff.mpr (by simpa using moves))]
    ring
  · rw [if_neg moves, afterPadding,
      if_neg (Scalar.gtApprox_rat_iff.not.mpr (by simpa using moves))]

/-- A padding does not move the cursor where the row behind it takes up the rest of the
output. -/
theorem afterPadding_of_taken {counted : ℚ} (taken : position + counted = total) :
    afterPadding total position counted = position := by
  rw [afterPadding_rat]
  split <;> linarith

/-- A clip that fits is left out without room for it, gets the room that there is if it
is longer, and has room to spare otherwise. -/
theorem fitted_rat (total position behind duration : ℚ) (endFits : Bool) (timing : Timing ℚ) :
    fitted total position behind duration endFits timing =
      if total - position - behind < Scalar.tolerance then none
      else if total - position - behind < duration + Scalar.tolerance then
        some (total - position - behind,
          if endFits then timing.trimStart
          else timing.trimStart + (position + duration + behind - total) * timing.speed)
      else some (duration, timing.trimStart) := by
  have leftOut : Scalar.geApprox (position + duration + behind - total) duration = true ↔
      total - position - behind < Scalar.tolerance := by
    rw [Scalar.geApprox_rat_iff]
    constructor <;> intro _ <;> linarith
  have longer : Scalar.gtApprox (position + duration + behind - total) (Scalar.ofInt 0) = true ↔
      total - position - behind < duration + Scalar.tolerance := by
    rw [Scalar.gtApprox_rat_iff, Scalar.ofInt_rat, Int.cast_zero]
    constructor <;> intro _ <;> linarith
  have room : duration - (position + duration + behind - total) = total - position - behind := by
    ring
  simp only [fitted, leftOut, longer, room]

/-- A fitting clip that is kept either gives up what does not fit, which leaves it more
than a tolerance, or has room to spare and stays as it is. -/
theorem fitted_cases {counted duration length start : ℚ} {endFits : Bool} {timing : Timing ℚ}
    (kept : fitted total position counted duration endFits timing = some (length, start)) :
    (position + length + counted = total ∧ Scalar.tolerance ≤ length) ∨
      (length = duration ∧ position + length + counted ≤ total) := by
  rw [fitted_rat] at kept
  split at kept
  · cases kept
  · rename_i hasRoom
    split at kept
    · cases kept
      exact .inl ⟨by ring, not_lt.mp hasRoom⟩
    · rename_i spare
      cases kept
      have := Scalar.tolerance_rat_pos
      exact .inr ⟨rfl, by linarith⟩

/-- Nothing is left for a clip that fits where the row behind it takes up the rest of the
output. -/
theorem fitted_eq_none {counted duration : ℚ} {endFits : Bool} {timing : Timing ℚ}
    (taken : position + counted = total) :
    fitted total position counted duration endFits timing = none := by
  have room : total - position - counted = 0 := by linarith
  rw [fitted_rat, room, if_pos Scalar.tolerance_rat_pos]

end Montage.Timeline
