import Montage.Proofs.Timeline.Attained
import Montage.Proofs.Timeline.Progress

/-!
# Where a walk comes by

A walk may be taken apart at any id of its row.  `Walks` tells where the cursor is there, and
what has been played so far; a walk goes on from the cursor with the rest of the row.

A row can be measured at a position if it can be at a later one.  So it can where a walk comes
by: the walk goes on to the end of the row, and unless all clips fit, every clip that counts is
placed there no earlier than it would be measured.  If all clips fit, the walk does not pass
the position at which the rest of the row was measured for the length of the output.
-/

namespace Montage.Timeline

/-! ## The way to an id -/

section Walking

variable {α : Type} [Scalar α] {template : Template α} {infos : MediaMap α} {everyFit : Bool}
variable {position total : α} {zIndex : Int} {before rest : List String}
variable {entries : List (Entry α)}

/-- A walk through the beginning of a row, in front of the rest of the row: from a position to
the cursor behind it, with the entries of what is played. -/
inductive Walks (template : Template α) (infos : MediaMap α) (everyFit : Bool) (total : α)
    (zIndex : Int) (rest : List String) : α → List String → α → List (Entry α) → Prop
  | nil {position : α} : Walks template infos everyFit total zIndex rest position [] position []
  | padding {position behind cursor : α} {before : List String} {opening : List (Entry α)}
      (measured : counted template infos everyFit position (before ++ rest) = .ok behind)
      (onward : Walks template infos everyFit total zIndex rest
        (afterPadding total position behind) before cursor opening) :
      Walks template infos everyFit total zIndex rest position (Layer.padding :: before) cursor
        opening
  | leftOut {position cursor : α} {id : String} {clip : Clip α} {timing : Timing α}
      {before : List String} {opening : List (Entry α)} (clipId : id ≠ Layer.padding)
      (found : template.clip id = .ok clip)
      (resolved : Timing.ofClip template.scope clip (infos.lookup id) position = .ok timing)
      (leftOut : played template infos everyFit total position clip timing (before ++ rest) =
        .ok none)
      (onward : Walks template infos everyFit total zIndex rest position before cursor opening) :
      Walks template infos everyFit total zIndex rest position (id :: before) cursor opening
  | played {position cursor length start : α} {id : String} {clip : Clip α} {timing : Timing α}
      {before : List String} {opening : List (Entry α)} (clipId : id ≠ Layer.padding)
      (found : template.clip id = .ok clip)
      (resolved : Timing.ofClip template.scope clip (infos.lookup id) position = .ok timing)
      (plays : played template infos everyFit total position clip timing (before ++ rest) =
        .ok (some (length, start)))
      (onward : Walks template infos everyFit total zIndex rest (position + length) before cursor
        opening) :
      Walks template infos everyFit total zIndex rest position (id :: before) cursor
        (⟨id, position, length, start, timing.speed, zIndex⟩ :: opening)

/-- A walk comes by every id of its row, and goes on from where the cursor is there. -/
theorem exists_walks_of_entriesFrom
    (walked : entriesFrom template infos everyFit total zIndex position (before ++ rest) =
      .ok entries) :
    ∃ cursor opening closing, entries = opening ++ closing ∧
      Walks template infos everyFit total zIndex rest position before cursor opening ∧
      entriesFrom template infos everyFit total zIndex cursor rest = .ok closing := by
  induction before generalizing position entries with
  | nil => exact ⟨position, [], entries, rfl, .nil, walked⟩
  | cons id before ih =>
      rcases entriesFrom_cons_cases walked with
        ⟨rfl, behind, measured, onward⟩ | ⟨clipId, clip, timing, found, resolved, walk⟩
      · obtain ⟨cursor, opening, closing, same, walks, goesOn⟩ := ih onward
        exact ⟨cursor, opening, closing, same, .padding measured walks, goesOn⟩
      · rcases walk with ⟨leftOut, onward⟩ | ⟨length, start, later, plays, onward, rfl⟩
        · obtain ⟨cursor, opening, closing, same, walks, goesOn⟩ := ih onward
          exact ⟨cursor, opening, closing, same, .leftOut clipId found resolved leftOut walks,
            goesOn⟩
        · obtain ⟨cursor, opening, closing, rfl, walks, goesOn⟩ := ih onward
          exact ⟨cursor, _ :: opening, closing, rfl, .played clipId found resolved plays walks,
            goesOn⟩

/-- The entries of a resolved timeline are those of its layers, stacked, and what a walk makes of
every layer holds of these. -/
theorem Resolution.stack_and_rows {timeline : Timeline α}
    (resolution : Resolution template infos timeline) {makes : α × Layer → List (Entry α) → Prop}
    (walk : ∀ start layer row, (start, layer) ∈ layers resolution.starts →
      entriesFrom template infos resolution.everyFit timeline.total layer.zIndex start
        layer.clips = .ok row → makes (start, layer) row) :
    IsStack resolution.rows.flatten timeline.entries ∧
      List.Forall₂ makes (layers resolution.starts) resolution.rows := by
  constructor
  · rw [resolution.entries_eq]
    exact isStack_stacked _
  · have walked := (List.forall₂_and_left _ _).mpr
      ⟨fun _ member => member, Result.mapM_eq_ok_iff.mp resolution.rows_eq⟩
    apply walked.imp
    rintro ⟨start, layer⟩ row ⟨placed, walked⟩
    exact walk start layer row placed walked

end Walking

end Montage.Timeline

/-! ## Measuring at earlier positions -/

namespace Montage.Timing

variable {scope : Scope ℚ} {clip : Clip ℚ} {info : Option (MediaInfo ℚ)} {trim : Trim ℚ}
variable {source given found : Option ℚ} {trimStart speed earlier later : ℚ} {timing : Timing ℚ}

/-- What has a natural length has one at earlier positions, which is none less. -/
theorem exists_natural_of_le (order : earlier ≤ later)
    (resolved : natural scope trim source given later trimStart speed = .ok found) :
    ∃ before, natural scope trim source given earlier trimStart speed = .ok before ∧
      (found = before ∨ ∃ length longer, found = some length ∧ before = some longer ∧
        length ≤ longer) := by
  simp only [natural, Result.bind_eq_ok_iff] at resolved ⊢
  obtain ⟨stop, stopResolved, rest⟩ := resolved
  cases stop with
  | none => exact ⟨found, ⟨none, stopResolved, rest⟩, .inl rfl⟩
  | some stop =>
      cases Result.pure_eq_ok_iff.mp rest
      exact ⟨some (stop - earlier), ⟨some stop, stopResolved, rfl⟩,
        .inr ⟨stop - later, stop - earlier, rfl, rfl, by linarith⟩⟩

/-- A clip that can play at a position can play at any earlier one. -/
theorem exists_ofClip_of_le (order : earlier ≤ later)
    (resolved : ofClip scope clip info later = .ok timing) :
    ∃ before, ofClip scope clip info earlier = .ok before := by
  simp only [ofClip, Result.bind_eq_ok_iff] at resolved ⊢
  obtain ⟨_, checked, speed, speedResolved, start, startResolved, given, givenResolved, found,
    foundResolved, rest⟩ := resolved
  obtain ⟨before, beforeResolved, same⟩ := exists_natural_of_le order foundResolved
  rcases same with rfl | ⟨length, longer, rfl, rfl, le⟩
  · exact ⟨timing, _, checked, speed, speedResolved, start, startResolved, given, givenResolved,
      _, beforeResolved, rest⟩
  · -- what is left at the earlier position passes the same checks
    obtain ⟨nonneg, settled⟩ := Result.refused_eq_ok_iff.mp rest
    obtain ⟨_, lengthSettled, _⟩ := Result.bind_eq_ok_iff.mp settled
    have fits := (settle_eq_ok_iff.mp lengthSettled).2
    have longerSettled : settle clip.id (info.bind MediaInfo.duration) given longer =
        .ok (given.getD longer) := by
      rw [settle_eq_ok_iff]
      constructor
      · rfl
      · intro manual isGiven measured
        have enough := Scalar.leApprox_rat_iff.mp (fits manual isGiven measured)
        rw [Scalar.leApprox_rat_iff]
        linarith
    have longerNonneg : ¬Scalar.lt longer (Scalar.ofInt 0) = true := by
      rw [Scalar.lt_rat_iff, not_lt] at nonneg ⊢
      exact nonneg.trans le
    refine ⟨⟨some (given.getD longer), start.getD 0, speed⟩, (), checked, speed, speedResolved,
      start, startResolved, given, givenResolved, some longer, beforeResolved,
      Result.refused_eq_ok_iff.mpr ⟨longerNonneg, ?_⟩⟩
    rw [longerSettled]
    rfl

end Montage.Timing

namespace Montage.Timeline

variable {template : Template ℚ} {infos : MediaMap ℚ} {everyFit : Bool} {zIndex : Int}
variable {position total cursor earlier later length start behind : ℚ} {id : String}
variable {before rest row : List String} {clip : Clip ℚ} {timing : Timing ℚ}
variable {opening entries : List (Entry ℚ)}

/-- A clip that fits counts for nothing, unless all clips fit. -/
theorem weight_of_isFit (isFit : clip.isFit = true) : weight false clip timing = 0 := by
  simp [weight, isFit]

/-- A clip that does not fit counts for its length. -/
theorem weight_of_unfit (unfit : clip.isFit = false) :
    weight everyFit clip timing = timing.duration.getD 0 := by
  simp [weight, unfit]

/-- A row can be measured from a clip on if what is behind the clip can be. -/
theorem counted_cons_eq_ok (clipId : id ≠ Layer.padding) (found : template.clip id = .ok clip)
    (resolved : Timing.ofClip template.scope clip (infos.lookup id) position = .ok timing)
    (measured : counted template infos everyFit (position + weight everyFit clip timing) rest =
      .ok length) :
    counted template infos everyFit position (id :: rest) =
      .ok (weight everyFit clip timing + length) := by
  rw [counted_cons_clip clipId, found, Result.ok_bind, resolved, Result.ok_bind, measured]
  rfl

/-- A row that can be measured at a position can be measured at any earlier one. -/
theorem exists_counted_of_le (order : earlier ≤ later)
    (measured : counted template infos everyFit later row = .ok length) :
    ∃ longer, counted template infos everyFit earlier row = .ok longer := by
  induction row generalizing earlier later length with
  | nil => exact ⟨0, rfl⟩
  | cons id rest ih =>
      rcases counted_cons_cases measured with
        ⟨rfl, behind⟩ | ⟨clipId, clip, timing, after, found, resolved, behind, rfl⟩
      · rw [counted_cons_padding]
        exact ih order behind
      · obtain ⟨first, firstResolved⟩ := Timing.exists_ofClip_of_le order resolved
        obtain ⟨_, ends⟩ := weight_of_le everyFit order firstResolved resolved
        obtain ⟨longer, longerMeasured⟩ := ih ends behind
        exact ⟨_, counted_cons_eq_ok clipId found firstResolved longerMeasured⟩

theorem GoesForward.tail (forward : GoesForward template infos (id :: rest)) :
    GoesForward template infos rest :=
  fun other member => forward other (List.mem_cons_of_mem id member)

theorem GoesForward.of_append (forward : GoesForward template infos (before ++ rest)) :
    GoesForward template infos rest :=
  fun other member => forward other (List.mem_append_right before member)

/-- A row that goes forward does not count for less than nothing. -/
theorem GoesForward.counted_nonneg (forward : GoesForward template infos row)
    (measured : counted template infos everyFit position row = .ok length) : 0 ≤ length := by
  induction row generalizing position length with
  | nil =>
      cases measured
      exact le_rfl
  | cons id rest ih =>
      rcases counted_cons_cases measured with
        ⟨_, behind⟩ | ⟨clipId, clip, timing, later, found, resolved, behind, rfl⟩
      · exact ih forward.tail behind
      · have nonneg : 0 ≤ weight everyFit clip timing :=
          weight_nonneg found resolved (forward id List.mem_cons_self clipId)
        exact add_nonneg nonneg (ih forward.tail behind)

/-! ## Measuring where a walk comes by -/

/-- Unless all clips fit, a row that is walked can be measured where the walk begins. -/
theorem exists_counted_of_entriesFrom
    (walked : entriesFrom template infos false total zIndex position row = .ok entries) :
    ∃ length, counted template infos false position row = .ok length := by
  induction row generalizing position entries with
  | nil => exact ⟨0, rfl⟩
  | cons id rest ih =>
      rcases entriesFrom_cons_cases walked with
        ⟨rfl, behind, measured, _⟩ | ⟨clipId, clip, timing, found, resolved, walk⟩
      · rw [counted_cons_padding]
        exact ⟨behind, measured⟩
      · suffices behind : ∃ length,
            counted template infos false (position + weight false clip timing) rest =
              .ok length by
          obtain ⟨length, measured⟩ := behind
          exact ⟨_, counted_cons_eq_ok clipId found resolved measured⟩
        rcases walk with ⟨leftOut, onward⟩ | ⟨length, start, later, plays, onward, rfl⟩
        · rw [weight_of_leftOut leftOut, add_zero]
          exact ih onward
        · rcases played_cases plays with ⟨unfit, rfl, _⟩ | ⟨isFit, behind, measured, _⟩
          · rw [weight_of_unfit unfit]
            cases known : timing.duration with
            | some duration =>
                rw [known, Option.getD_some] at onward
                exact ih onward
            | none =>
                -- the walk goes on at the end of the output, which is not before the clip
                have room := tolerance_le_of_unknown known plays
                have positive : (0 : ℚ) < Scalar.tolerance := Scalar.tolerance_rat_pos
                rw [known, Option.getD_none] at onward
                obtain ⟨length, measured⟩ := ih onward
                apply exists_counted_of_le _ measured
                rw [Option.getD_none]
                linarith
          · rw [weight_of_isFit isFit, add_zero]
            exact ⟨behind, measured⟩

/-- At a position or later a row has been measured to end no earlier than the output.  This is
what a walk keeps where all clips fit. -/
def EndsLate (template : Template ℚ) (infos : MediaMap ℚ) (total position : ℚ)
    (row : List String) : Prop :=
  ∃ measuredAt length, position ≤ measuredAt ∧
    counted template infos true measuredAt row = .ok length ∧ total ≤ measuredAt + length

/-- A row without its head ends as late, unless its head is given a negative length. -/
theorem EndsLate.tail (late : EndsLate template infos total position (id :: rest))
    (forward : GoesForward template infos (id :: rest)) :
    EndsLate template infos total position rest := by
  obtain ⟨measuredAt, _, order, measured, ends⟩ := late
  rcases counted_cons_cases measured with
    ⟨_, behind⟩ | ⟨clipId, clip, timing, length, found, resolved, behind, rfl⟩
  · exact ⟨measuredAt, _, order, behind, ends⟩
  · have nonneg : 0 ≤ weight true clip timing :=
      weight_nonneg found resolved (forward id List.mem_cons_self clipId)
    exact ⟨_, length, by linarith, behind, by linarith⟩

/-- What a row leaves of the output ends no later than the row has been measured to begin. -/
theorem EndsLate.of_le (late : EndsLate template infos total position row)
    (measured : counted template infos true position row = .ok behind)
    (before : later ≤ total - behind) : EndsLate template infos total later row := by
  obtain ⟨measuredAt, length, order, measuredLater, ends⟩ := late
  have notPassed : later ≤ measuredAt := by
    rcases counted_at_other measured measuredLater with rfl | same
    · linarith
    · linarith
  exact ⟨measuredAt, length, notPassed, measuredLater, ends⟩

theorem EndsLate.after_padding (late : EndsLate template infos total position rest)
    (measured : counted template infos true position rest = .ok behind) :
    EndsLate template infos total (afterPadding total position behind) rest := by
  rw [afterPadding_rat]
  split
  · exact late.of_le measured le_rfl
  · exact late

theorem EndsLate.after_played (late : EndsLate template infos total position rest)
    (isFit : clip.isFit = true)
    (plays : played template infos true total position clip timing rest =
      .ok (some (length, start))) :
    EndsLate template infos total (position + length) rest := by
  rcases played_cases plays with ⟨unfit, _⟩ | ⟨_, behind, measured, kept⟩
  · rw [isFit] at unfit
    contradiction
  · rcases fitted_cases kept with ⟨exactly, _⟩ | ⟨_, spare⟩
    · apply late.of_le measured
      linarith
    · apply late.of_le measured
      linarith

/-- Where all clips fit, a walk through a row that ends late keeps it so. -/
theorem Walks.endsLate
    (walks : Walks template infos true total zIndex rest position before cursor opening)
    (forward : GoesForward template infos (before ++ rest))
    (bounded : IsBounded template infos true total (before ++ rest))
    (late : EndsLate template infos total position (before ++ rest)) :
    EndsLate template infos total cursor rest := by
  induction walks with
  | nil => exact late
  | padding measured _ ih =>
      exact ih forward.tail bounded.tail
        ((late.tail forward).after_padding measured)
  | leftOut _ _ _ _ _ ih =>
      exact ih forward.tail bounded.tail (late.tail forward)
  | played clipId found _ plays _ ih =>
      have isFit := bounded _ List.mem_cons_self clipId _ found
      exact ih forward.tail bounded.tail
        ((late.tail forward).after_played isFit plays)

/-- Behind a clip that fits, the rest of a row can be measured where the walk comes by the
clip. -/
theorem exists_counted_behind
    (walks : Walks template infos everyFit total zIndex (id :: rest) position before cursor
      opening)
    (forward : GoesForward template infos (before ++ id :: rest))
    (bounded : IsBounded template infos everyFit total (before ++ id :: rest))
    (late : everyFit = true → EndsLate template infos total position (before ++ id :: rest))
    (onward : entriesFrom template infos everyFit total zIndex cursor (id :: rest) =
      .ok entries)
    (clipId : id ≠ Layer.padding) (found : template.clip id = .ok clip)
    (isFit : clip.isFit = true) :
    ∃ behind, counted template infos everyFit cursor rest = .ok behind := by
  cases everyFit with
  | true =>
      have behind : EndsLate template infos total cursor rest :=
        (walks.endsLate forward bounded (late rfl)).tail forward.of_append
      obtain ⟨measuredAt, length, order, measured, _⟩ := behind
      exact exists_counted_of_le order measured
  | false =>
      obtain ⟨length, measured⟩ := exists_counted_of_entriesFrom onward
      rcases counted_cons_cases measured with
        ⟨pad, _⟩ | ⟨_, clip', timing, behind, found', _, measuredRest, _⟩
      · exact absurd pad clipId
      · cases found.symm.trans found'
        rw [weight_of_isFit isFit, add_zero] at measuredRest
        exact ⟨behind, measuredRest⟩

end Montage.Timeline
