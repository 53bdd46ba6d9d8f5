import Montage.Proofs.Rational
import Montage.Timeline.Timing

/-!
# What the length of a clip depends on

The natural length of a clip is the time up to a stop in output time, or a length that
is given where there is no source to measure, or what is left of the source.  Only the
first of them depends on where the clip begins.  At two positions a clip is therefore as
long, or it ends at the same time.
-/

namespace Montage.Timing

/-! ## Clips without a length -/

section Unknown

variable {α : Type} [Scalar α] {scope : Scope α} {clip : Clip α} {info : Option (MediaInfo α)}
variable {position : α} {timing : Timing α}

/-- A value that is not null stands for seconds. -/
theorem given?_ne_none {value : Value α} (present : value.isNull = false) :
    given? scope value ≠ .ok none := by
  intro absent
  rw [given?, if_neg (by simp [present])] at absent
  rcases Result.bind_eq_ok_iff.mp absent with ⟨_, _, some_eq_none⟩
  cases Result.pure_eq_ok_iff.mp some_eq_none

/-- Only null stands for no seconds. -/
theorem isNull_of_given?_eq_none {value : Value α} (absent : given? scope value = .ok none) :
    value.isNull = true := by
  by_contra present
  exact given?_ne_none (by simpa using present) absent

/-- There is no natural length only where nothing is measured, given or stopped. -/
theorem natural_eq_none {trim : Trim α} {source given : Option α} {trimStart speed : α}
    (resolved : natural scope trim source given position trimStart speed = .ok none) :
    given? scope trim.stopAtOutput.value = .ok none ∧ source = none ∧ given = none := by
  simp only [natural, Result.bind_eq_ok_iff] at resolved
  rcases resolved with ⟨stop, stopResolved, rest⟩
  cases stop with
  | some stop => cases Result.pure_eq_ok_iff.mp rest
  | none =>
      cases source with
      | none => exact ⟨stopResolved, rfl, Result.pure_eq_ok_iff.mp rest⟩
      | some source =>
          simp only [Result.bind_eq_ok_iff, Result.pure_eq_ok_iff, reduceCtorEq, and_false,
            exists_false] at rest

/-- Nothing tells how long a clip lasts: its source has no length, none is given, and it
does not stop at a time of the output. -/
structure LacksLength (clip : Clip α) (info : Option (MediaInfo α)) : Prop where
  unmeasured : info.bind MediaInfo.duration = none
  ungiven : clip.duration.isNull = true
  unstopped : clip.trim.stopAtOutput.isGiven = false

/-- A clip that plays for no definite time lacks a length. -/
theorem lacksLength_of_ofClip (resolved : ofClip scope clip info position = .ok timing)
    (unknown : timing.duration = none) : LacksLength clip info := by
  simp only [ofClip, Result.bind_eq_ok_iff] at resolved
  rcases resolved with ⟨_, _, _, _, _, _, given, givenResolved, natural, naturalResolved, rest⟩
  cases natural with
  | some length =>
      -- a length that is found is settled, and then it is known
      rcases Result.refused_eq_ok_iff.mp rest with ⟨_, rest⟩
      rcases Result.bind_eq_ok_iff.mp rest with ⟨_, _, rest⟩
      cases Result.pure_eq_ok_iff.mp rest
      cases unknown
  | none =>
      rcases natural_eq_none naturalResolved with ⟨noStop, noSource, rfl⟩
      have unstopped : clip.trim.stopAtOutput.value.isNull = true :=
        isNull_of_given?_eq_none noStop
      exact ⟨noSource, isNull_of_given?_eq_none givenResolved, by simpa [Field.isGiven]⟩

/-- A clip that lacks a length plays for no definite time. -/
theorem LacksLength.duration_eq_none (lacks : LacksLength clip info)
    (resolved : ofClip scope clip info position = .ok timing) : timing.duration = none := by
  have unstopped : clip.trim.stopAtOutput.value.isNull = true := by
    simpa [Field.isGiven] using lacks.unstopped
  simp only [ofClip, given?, if_pos lacks.ungiven, lacks.unmeasured, natural, if_pos unstopped,
    Result.bind_eq_ok_iff, Except.ok.injEq] at resolved
  rcases resolved with ⟨_, _, _, _, _, _, _, rfl, _, ⟨_, rfl, rest⟩, final⟩
  cases Result.pure_eq_ok_iff.mp rest
  cases Result.pure_eq_ok_iff.mp final
  rfl

end Unknown

/-! ## What a length is made of -/

variable {scope : Scope ℚ} {clip : Clip ℚ} {info : Option (MediaInfo ℚ)}
variable {trim : Trim ℚ} {source given found : Option ℚ} {position trimStart speed : ℚ}
variable {timing : Timing ℚ}

/-- The three ways in which a natural length comes about. -/
theorem natural_cases
    (resolved : natural scope trim source given position trimStart speed = .ok found) :
    (∃ stop, given? scope trim.stopAtOutput.value = .ok (some stop) ∧
        found = some (stop - position)) ∨
      (given? scope trim.stopAtOutput.value = .ok none ∧ source = none ∧ found = given) ∨
      (given? scope trim.stopAtOutput.value = .ok none ∧
        ∃ whole kept, source = some whole ∧ remaining scope trim whole trimStart = .ok kept ∧
          speed ≠ 0 ∧ found = some (kept / speed)) := by
  simp only [natural, Result.bind_eq_ok_iff] at resolved
  rcases resolved with ⟨stop, stopResolved, rest⟩
  cases stop with
  | some stop =>
      exact .inl ⟨stop, stopResolved, (Result.pure_eq_ok_iff.mp rest).symm⟩
  | none =>
      cases source with
      | none => exact .inr (.inl ⟨stopResolved, rfl, (Result.pure_eq_ok_iff.mp rest).symm⟩)
      | some whole =>
          simp only [Result.bind_eq_ok_iff, Result.lift_eq_ok_iff, Scalar.toReal_rat,
            Except.ok.injEq, Scalar.divide_rat_eq_ok_iff, Result.pure_eq_ok_iff] at rest
          rcases rest with ⟨_, rfl, kept, keptResolved, _, ⟨nonzero, rfl⟩, rfl⟩
          exact .inr (.inr ⟨stopResolved, whole, kept, rfl, keptResolved, nonzero, rfl⟩)

/-- What is left of a source ends at a stop that is given, or else at the end of the source
without what is cut off there. -/
theorem remaining_cases {whole kept : ℚ}
    (resolved : remaining scope trim whole trimStart = .ok kept) :
    (∃ stop, given? scope trim.stop.value = .ok (some stop) ∧ kept = stop - trimStart) ∨
      (given? scope trim.stop.value = .ok none ∧ ∃ ending,
        trimmed? scope trim.ending = .ok ending ∧ kept = whole - ending.getD 0 - trimStart) := by
  simp only [remaining, Result.bind_eq_ok_iff] at resolved
  rcases resolved with ⟨ending, endingResolved, stop, stopResolved, rest⟩
  cases stop with
  | some stop => exact .inl ⟨stop, stopResolved, (Result.pure_eq_ok_iff.mp rest).symm⟩
  | none =>
      refine .inr ⟨stopResolved, ending, endingResolved, ?_⟩
      cases ending with
      | none =>
          cases rest
          rw [Option.getD_none, sub_zero]
      | some ending =>
          cases rest
          exact sub_right_comm whole trimStart ending

/-- At another position the natural length is the same, or that up to the same stop in
output time. -/
theorem natural_at_other {other : ℚ} {otherFound : Option ℚ}
    (resolved : natural scope trim source given position trimStart speed = .ok found)
    (otherResolved : natural scope trim source given other trimStart speed = .ok otherFound) :
    found = otherFound ∨
      ∃ stop, found = some (stop - position) ∧ otherFound = some (stop - other) := by
  simp only [natural, Result.bind_eq_ok_iff] at resolved otherResolved
  rcases resolved with ⟨stop, stopResolved, rest⟩
  rcases otherResolved with ⟨otherStop, otherStopResolved, otherRest⟩
  cases stopResolved.symm.trans otherStopResolved
  cases stop with
  | none => exact .inl (Except.ok.inj (rest.symm.trans otherRest))
  | some stop =>
      exact .inr ⟨stop, (Result.pure_eq_ok_iff.mp rest).symm,
        (Result.pure_eq_ok_iff.mp otherRest).symm⟩

/-- A length that is given stands in place of the natural one, and only if a source
there is has as much. -/
theorem settle_eq_ok_iff {id : String} {length duration : ℚ} :
    settle id source given length = .ok duration ↔
      duration = given.getD length ∧
        ∀ manual, given = some manual → source.isSome → Scalar.leApprox manual length = true := by
  cases given with
  | none =>
      simp only [settle, Except.ok.injEq, Option.getD_none, reduceCtorEq, false_implies,
        implies_true, and_true]
      exact eq_comm
  | some manual =>
      have measured : (source.mapM fun whole => (liftM (Scalar.toReal whole) : Result ℚ ℚ)) =
          .ok source := by
        cases source <;> rfl
      simp only [settle, measured, Result.ok_bind, refuse, Result.refused_eq_ok_iff,
        Result.pure_eq_ok_iff]
      constructor
      · rintro ⟨fits, rfl⟩
        refine ⟨rfl, ?_⟩
        rintro _ ⟨⟩ isSome
        simpa [isSome] using fits
      · rintro ⟨rfl, fits⟩
        refine ⟨?_, rfl⟩
        simpa using fits _ rfl

/-- The parts of a timing.  Of these only the natural length depends on the
position. -/
theorem ofClip_cases (resolved : ofClip scope clip info position = .ok timing) :
    ∃ start given natural,
      trimmed? scope clip.trim.start = .ok start ∧ timing.trimStart = start.getD 0 ∧
      factor clip.speed = .ok timing.speed ∧ given? scope clip.duration = .ok given ∧
      Timing.natural scope clip.trim (info.bind MediaInfo.duration) given position
        timing.trimStart timing.speed = .ok natural ∧
      timing.duration = natural.map given.getD ∧
      ∀ length ∈ natural, 0 ≤ length ∧
        ∀ manual ∈ given, (info.bind MediaInfo.duration).isSome →
          Scalar.leApprox manual length = true := by
  simp only [ofClip, Result.bind_eq_ok_iff] at resolved
  rcases resolved with ⟨_, _, speed, speedResolved, start, startResolved, given, givenResolved,
    natural, naturalResolved, rest⟩
  cases natural with
  | none =>
      cases Result.pure_eq_ok_iff.mp rest
      exact ⟨start, given, none, startResolved, rfl, speedResolved, givenResolved,
        naturalResolved, rfl, by simp⟩
  | some length =>
      rcases Result.refused_eq_ok_iff.mp rest with ⟨nonneg, rest⟩
      rcases Result.bind_eq_ok_iff.mp rest with ⟨duration, settled, rest⟩
      cases Result.pure_eq_ok_iff.mp rest
      rcases settle_eq_ok_iff.mp settled with ⟨rfl, fits⟩
      refine ⟨start, given, some length, startResolved, rfl, speedResolved, givenResolved,
        naturalResolved, rfl, ?_⟩
      rintro _ ⟨⟩
      exact ⟨by simpa using nonneg, fits⟩

/-! ## Known lengths -/

/-- A clip has a length that does not depend on the end of the output: its source has
one, or one is given, or it stops at a time of the output.  A length that is given is
not negative. -/
structure HasLength (scope : Scope ℚ) (clip : Clip ℚ) (info : Option (MediaInfo ℚ)) : Prop where
  known : (info.bind MediaInfo.duration).isSome ∨ clip.duration.isNull = false ∨
    clip.trim.stopAtOutput.isGiven = true
  given_nonneg : ∀ length, given? scope clip.duration = .ok (some length) → 0 ≤ length

/-- A clip with a known length plays for a time that is not negative. -/
theorem HasLength.duration_nonneg (known : HasLength scope clip info)
    (resolved : ofClip scope clip info position = .ok timing) :
    ∃ duration, timing.duration = some duration ∧ 0 ≤ duration := by
  rcases ofClip_cases resolved with
    ⟨_, given, natural, _, _, _, givenResolved, naturalResolved, duration_eq, nonneg⟩
  have natural_ne_none : natural ≠ none := by
    rcases natural_cases naturalResolved with
      ⟨stop, _, rfl⟩ | ⟨noStop, noSource, rfl⟩ | ⟨_, whole, kept, _, _, _, rfl⟩
    · simp
    · rintro rfl
      rcases known.known with hasSource | isGiven | stops
      · simp [noSource] at hasSource
      · exact given?_ne_none isGiven givenResolved
      · exact given?_ne_none (by simpa [Field.isGiven] using stops) noStop
    · simp
  obtain ⟨length, rfl⟩ := Option.ne_none_iff_exists'.mp natural_ne_none
  cases given with
  | none => exact ⟨length, duration_eq, (nonneg length rfl).1⟩
  | some manual => exact ⟨manual, duration_eq, known.given_nonneg manual givenResolved⟩

/-! ## Other beginnings -/

/-- Without a stop in output time a clip plays the same wherever it begins. -/
theorem ofClip_at_other (unstopped : clip.trim.stopAtOutput.isGiven = false)
    (position other : ℚ) : ofClip scope clip info position = ofClip scope clip info other := by
  have absent : clip.trim.stopAtOutput.value.isNull = true := by
    simpa [Field.isGiven] using unstopped
  simp only [ofClip, natural, given?, if_pos absent, Result.ok_bind]

/-- At another position a clip plays for as long as here, or up to the same time of the
output. -/
theorem duration_at_other {other : ℚ} {first second : Timing ℚ}
    (firstResolved : ofClip scope clip info position = .ok first)
    (secondResolved : ofClip scope clip info other = .ok second) :
    first.duration = second.duration ∨
      ∃ before after, first.duration = some before ∧ second.duration = some after ∧
        position + before = other + after := by
  rcases ofClip_cases firstResolved with
    ⟨start, given, natural, startResolved, trimStart_eq, speedResolved, givenResolved,
      naturalResolved, duration_eq, _⟩
  rcases ofClip_cases secondResolved with
    ⟨start', given', natural', startResolved', trimStart_eq', speedResolved', givenResolved',
      naturalResolved', duration_eq', _⟩
  cases startResolved.symm.trans startResolved'
  cases givenResolved.symm.trans givenResolved'
  have sameSpeed : first.speed = second.speed :=
    Except.ok.inj (speedResolved.symm.trans speedResolved')
  have sameStart : first.trimStart = second.trimStart := trimStart_eq.trans trimStart_eq'.symm
  rw [duration_eq, duration_eq']
  rw [sameSpeed, sameStart] at naturalResolved
  rcases natural_at_other naturalResolved naturalResolved' with rfl | ⟨stop, rfl, rfl⟩
  · exact .inl rfl
  · cases given with
    | none => exact .inr ⟨stop - position, stop - other, rfl, rfl, by ring⟩
    | some manual => exact .inl rfl

end Montage.Timing
