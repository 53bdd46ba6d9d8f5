import Montage.Proofs.Timeline.Cut

/-!
# Stops at a time of the output

A clip that stops at a time of the output lasts up to this time from where it begins, wherever
that is.  A length that is given to it and a trim that fits it are compared with this length up
to a tolerance each, and so it may end behind the stop by as much.  But a length that is given
is only compared where the source has a length of its own.  A still image, a text, or a file of
which nothing is known lasts for the length that is given, whatever its stop.
-/

namespace Montage

namespace Timing

variable {scope : Scope ℚ} {clip : Clip ℚ} {info : Option (MediaInfo ℚ)} {position : ℚ}
variable {timing : Timing ℚ}

/-- How long a clip plays up to a stop.  It begins no later than at the stop, and a length that is
given does not pass the stop if its source has a length. -/
structure LastsTo (info : Option (MediaInfo ℚ)) (position stop duration : ℚ) (given : Option ℚ) :
    Prop where
  begins : position ≤ stop
  duration_eq : duration = given.getD (stop - position)
  given_lt : ∀ length ∈ given, (info.bind MediaInfo.duration).isSome →
    position + length < stop + Scalar.tolerance

/-- A clip that is stopped at a time of the output has a length that lasts to it. -/
theorem exists_lastsTo (resolved : ofClip scope clip info position = .ok timing)
    (stopped : clip.trim.stopAtOutput.isGiven = true) :
    ∃ stop given duration, given? scope clip.trim.stopAtOutput.value = .ok (some stop) ∧
      given? scope clip.duration = .ok given ∧ timing.duration = some duration ∧
      LastsTo info position stop duration given := by
  have present : clip.trim.stopAtOutput.value.isNull = false := by
    simpa [Field.isGiven] using stopped
  rcases ofClip_cases resolved with
    ⟨_, given, natural, _, _, _, givenResolved, naturalResolved, duration_eq, checked⟩
  rcases natural_cases naturalResolved with
    ⟨stop, stopResolved, rfl⟩ | ⟨unstopped, _⟩ | ⟨unstopped, _⟩
  · obtain ⟨nonneg, fits⟩ := checked _ rfl
    have lasts : LastsTo info position stop (given.getD (stop - position)) given := by
      constructor
      · linarith
      · rfl
      · intro length isGiven measured
        have enough := Scalar.leApprox_rat_iff.mp (fits length isGiven measured)
        linarith
    exact ⟨stop, given, _, stopResolved, givenResolved, duration_eq, lasts⟩
  · exact absurd unstopped (given?_ne_none present)
  · exact absurd unstopped (given?_ne_none present)

end Timing

namespace Timeline

variable {template : Template ℚ} {infos : MediaMap ℚ} {everyFit : Bool}
variable {total position duration length start : ℚ} {clip : Clip ℚ} {timing : Timing ℚ}
variable {rest : List String}

/-- A clip that is played is no longer than it is without the words that fit it, up to a
tolerance if it has such a word. -/
theorem length_le_of_played (known : timing.duration = some duration)
    (plays : played template infos everyFit total position clip timing rest =
      .ok (some (length, start))) :
    length ≤ duration + if clip.isFit then Scalar.tolerance else 0 := by
  have tolerance_pos : (0 : ℚ) < Scalar.tolerance := Scalar.tolerance_rat_pos
  rcases played_cases plays with ⟨unfit, rfl, _⟩ | ⟨isFit, behind, _, kept⟩
  · simp [known, unfit]
  · rw [known, Option.getD_some, fitted_rat] at kept
    rw [if_pos isFit]
    split at kept
    · cases kept
    · split at kept
      · rename_i shorter
        cases kept
        exact shorter.le
      · cases kept
        linarith

/-! ## Entries -/

/-- By how much the comparisons that the length of a clip goes through may be wrong: one if it is
given, and one if it is made to fit. -/
def slack (given : Option ℚ) (isFit : Bool) : ℚ :=
  (if given.isSome then Scalar.tolerance else 0) + if isFit then Scalar.tolerance else 0

/-- How an entry of a clip obeys a stop at a time of the output.  It begins no later than that,
and it ends no later, up to the tolerances of the comparisons.  This is so unless a length is
given to a clip whose source has none, which then lasts for it. -/
structure ObeysStop (stop : ℚ) (given : Option ℚ) (measured isFit : Bool) (entry : Entry ℚ) :
    Prop where
  startAt_le : entry.startAt ≤ stop
  endAt_le : (given.isSome → measured) → entry.endAt ≤ stop + slack given isFit
  duration_le : ∀ length ∈ given, measured = false →
    entry.duration ≤ length + (if isFit then Scalar.tolerance else 0) ∧
      (isFit = false → entry.duration = length)

/-- A clip that lasts to a stop obeys it where it is played. -/
theorem obeysStop_of_played {entry : Entry ℚ} {info : Option (MediaInfo ℚ)} {stop : ℚ}
    {given : Option ℚ} (lasts : Timing.LastsTo info entry.startAt stop duration given)
    (known : timing.duration = some duration)
    (plays : played template infos everyFit total entry.startAt clip timing rest =
      .ok (some (entry.duration, entry.trimStart))) :
    ObeysStop stop given (info.bind MediaInfo.duration).isSome clip.isFit entry := by
  obtain ⟨begins, duration_eq, given_lt⟩ := lasts
  have length_le := length_le_of_played known plays
  constructor
  · exact begins
  · intro measured
    rw [Entry.endAt, slack]
    cases given with
    | none =>
        rw [Option.getD_none] at duration_eq
        simp only [Option.isSome_none, Bool.false_eq_true, if_false, zero_add]
        linarith
    | some length =>
        rw [Option.getD_some] at duration_eq
        have before := given_lt length rfl (measured rfl)
        simp only [Option.isSome_some, if_true]
        linarith
  · intro length isGiven _
    cases isGiven
    rw [Option.getD_some] at duration_eq
    subst duration_eq
    constructor
    · exact length_le
    · intro unfit
      exact (eq_of_played_unfit unfit known plays).1

/-- Every entry of a clip with a stop at a time of the output obeys it. -/
theorem obeysStop_of_mem {timeline : Timeline ℚ} {entry : Entry ℚ}
    (resolved : template.resolveTimeline infos = .ok timeline)
    (member : entry ∈ timeline.entries) (found : template.clip entry.clipId = .ok clip)
    (stopped : clip.trim.stopAtOutput.isGiven = true) :
    ∃ stop given,
      Timing.given? template.scope clip.trim.stopAtOutput.value = .ok (some stop) ∧
      Timing.given? template.scope clip.duration = .ok given ∧
      ObeysStop stop given ((infos.lookup entry.clipId).bind MediaInfo.duration).isSome
        clip.isFit entry := by
  obtain ⟨resolution⟩ := exists_resolution resolved
  obtain ⟨clip', timing, rest, found', timed, plays, _⟩ :=
    resolution.exists_played_of_mem member
  cases found.symm.trans found'
  obtain ⟨stop, given, duration, stopResolved, givenResolved, known, lasts⟩ :=
    Timing.exists_lastsTo timed stopped
  exact ⟨stop, given, stopResolved, givenResolved, obeysStop_of_played lasts known plays⟩

/-! ## A clip with all kinds of lengths and a still image -/

/-- A template with a clip that plays twice as fast, is given four seconds, fits and stops at
six, behind two seconds of another one.  Beside them a still image is given eight seconds and
stops at five, and a clip is given almost eight seconds, fits and stops before them, each time
by less than a tolerance. -/
def stoppedSource : Value ℚ :=
  .map
    [(.text "clips", .list
      [.map [(.text "id", .text "intro"), (.text "file", .text "intro.mp4")],
        .map [(.text "id", .text "scene"), (.text "file", .text "scene.mp4"),
          (.text "speed", .text "200%"), (.text "duration", .number 4),
          (.text "trim", .map
            [(.text "start", .text "fit"), (.text "stop_at_output", .number 6)])],
        .map [(.text "id", .text "still"), (.text "file", .text "still.png"),
          (.text "duration", .number 8),
          (.text "trim", .map [(.text "stop_at_output", .number 5)])],
        .map [(.text "id", .text "tail"), (.text "file", .text "tail.mp4"),
          (.text "duration", .number (8 - 9 / 10 ^ 13)),
          (.text "trim", .map
            [(.text "start", .text "fit"), (.text "stop_at_output", .number (8 - 18 / 10 ^ 13))])]]),
      (.text "timeline", .map [(.number 0, .list
        [.list [.text "intro", .text "scene"], .list [.text "still"], .list [.text "tail"]])])]

/-- The template that is read from it. -/
def stoppedTemplate : Template ℚ where
  clips :=
    [.plain "intro" "/intro.mp4",
      { Clip.plain "scene" "/scene.mp4" with
        speed := some "200%", duration := .number 4
        trim := ⟨some (.text "fit"), none, none, some (.number 6)⟩ },
      { Clip.plain "still" "/still.png" with
        duration := .number 8, trim := ⟨none, none, none, some (.number 5)⟩ },
      { Clip.plain "tail" "/tail.mp4" with
        duration := .number (8 - 9 / 10 ^ 13)
        trim := ⟨some (.text "fit"), none, none, some (.number (8 - 18 / 10 ^ 13))⟩ }]
  size := ⟨.text "100%", .text "100%", some "intro", "black"⟩
  timeline := [(.number 0, [⟨["intro", "scene"], 0⟩, ⟨["still"], 1⟩, ⟨["tail"], 2⟩])]
  preview := .text "00:00:00"
  keypoints := []
  directory := ⟨"/", []⟩

/-- The lengths of its sources, of which the still image has none. -/
def stoppedInfos : MediaMap ℚ :=
  [("intro", ⟨0, 0, 30, some 2, none, false, .video⟩),
    ("scene", ⟨0, 0, 30, some 20, none, false, .video⟩),
    ("still", ⟨2, 2, 60, none, none, false, .image⟩),
    ("tail", ⟨0, 0, 30, some 20, none, false, .video⟩)]

theorem read_stoppedSource : Template.read ⟨"/", []⟩ stoppedSource = .ok stoppedTemplate := by
  with_unfolding_all rfl

theorem exists_stoppedTimeline : ∃ timeline,
    stoppedTemplate.resolveTimeline stoppedInfos = .ok timeline ∧ timeline.total = 8 ∧
      timeline.entries =
        [⟨"intro", 0, 2, 0, 1, 0⟩, ⟨"scene", 2, 4, 0, 2, 0⟩, ⟨"still", 0, 8, 0, 1, 1⟩,
          ⟨"tail", 0, 8, -9 / 10 ^ 13, 1, 2⟩] := by
  have evaluated : (stoppedTemplate.resolveTimeline stoppedInfos).toOption.map Timeline.total =
      some 8 := by
    decide +kernel
  have first : entriesFrom stoppedTemplate stoppedInfos false 8 0 0 ["intro", "scene"] =
      .ok [⟨"intro", 0, 2, 0, 1, 0⟩, ⟨"scene", 2, 4, 0, 2, 0⟩] :=
    Result.toOption_eq_some_iff.mp (by decide +kernel)
  have second : entriesFrom stoppedTemplate stoppedInfos false 8 1 0 ["still"] =
      .ok [⟨"still", 0, 8, 0, 1, 1⟩] :=
    Result.toOption_eq_some_iff.mp (by decide +kernel)
  have third : entriesFrom stoppedTemplate stoppedInfos false 8 2 0 ["tail"] =
      .ok [⟨"tail", 0, 8, -9 / 10 ^ 13, 1, 2⟩] :=
    Result.toOption_eq_some_iff.mp (by decide +kernel)
  exact exists_of_rows evaluated rfl rfl (.cons first (.cons second (.cons third .nil)))
    (by decide +kernel)

/-- The clip that is given four seconds ends no later than at its stop. -/
theorem stoppedTemplate_obeysStop :
    ∃ timeline entry, stoppedTemplate.resolveTimeline stoppedInfos = .ok timeline ∧
      entry ∈ timeline.entries ∧ entry.clipId = "scene" ∧
      ObeysStop 6 (some 4) true true entry := by
  obtain ⟨timeline, resolved, _, entries_eq⟩ := exists_stoppedTimeline
  have member : ⟨"scene", 2, 4, 0, 2, 0⟩ ∈ timeline.entries := by simp [entries_eq]
  obtain ⟨stop, given, stopResolved, givenResolved, obeys⟩ :=
    obeysStop_of_mem resolved member rfl rfl
  cases stopResolved
  cases givenResolved
  exact ⟨timeline, _, resolved, member, rfl, obeys⟩

/-- In a template that is read and resolved, a still image that stops at five seconds ends at
eight, and a clip ends behind its stop by almost two tolerances. -/
theorem stoppedTemplate_passes_stop :
    Template.read ⟨"/", []⟩ stoppedSource = .ok stoppedTemplate ∧
      ∃ timeline still tail stillEntry tailEntry stop,
        stoppedTemplate.resolveTimeline stoppedInfos = .ok timeline ∧
        stillEntry ∈ timeline.entries ∧ tailEntry ∈ timeline.entries ∧
        stoppedTemplate.clip stillEntry.clipId = .ok still ∧
        Timing.given? stoppedTemplate.scope still.trim.stopAtOutput.value = .ok (some 5) ∧
        stillEntry.endAt = 8 ∧
        stoppedTemplate.clip tailEntry.clipId = .ok tail ∧
        Timing.given? stoppedTemplate.scope tail.trim.stopAtOutput.value = .ok (some stop) ∧
        stop + Scalar.tolerance < tailEntry.endAt := by
  obtain ⟨timeline, resolved, _, entries_eq⟩ := exists_stoppedTimeline
  exact ⟨read_stoppedSource, timeline, _, _, ⟨"still", 0, 8, 0, 1, 1⟩,
    ⟨"tail", 0, 8, -9 / 10 ^ 13, 1, 2⟩, 8 - 18 / 10 ^ 13, resolved, by simp [entries_eq],
    by simp [entries_eq], rfl, rfl, by norm_num [Entry.endAt], rfl, rfl, by decide +kernel⟩

end Timeline

end Montage
