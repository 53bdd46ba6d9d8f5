import Montage.Proofs.Template.Clips
import Montage.Proofs.Timeline.Layers

/-!
# What entries show of their sources

A clip is cut to a part of its source: from the time that is trimmed in front up to what is
trimmed at the end, or up to a stop, which is a time of the source or of the output.  A length
that is given keeps to this part up to a tolerance, and so does a clip that is shortened to
fit, up to one more.  But only what is trimmed in front of a source, or at its end, is compared
with the source.  A stop may lie beyond it, a trim may be negative, and then the length that is
left, and a length that is given up to it, is not one that the source has.
-/

namespace Montage.Timing

variable {scope : Scope ℚ} {clip : Clip ℚ} {trim : Trim ℚ} {info : Option (MediaInfo ℚ)}
variable {timing : Timing ℚ} {given found : Option ℚ} {whole position start stop speed : ℚ}

/-! ## Cuts -/

/-- The time of the source up to which it is left between its trims.  `start` is the time from
which on it is left. -/
inductive Stops (scope : Scope ℚ) (trim : Trim ℚ) (whole position start speed : ℚ) : ℚ → Prop
  | atOutput {time : ℚ} (given : given? scope trim.stopAtOutput.value = .ok (some time)) :
      Stops scope trim whole position start speed (start + (time - position) * speed)
  | atSource {stop : ℚ} (unstopped : given? scope trim.stopAtOutput.value = .ok none)
      (given : given? scope trim.stop.value = .ok (some stop)) :
      Stops scope trim whole position start speed stop
  | beforeEnd {ending : Option ℚ} (unstopped : given? scope trim.stopAtOutput.value = .ok none)
      (ungiven : given? scope trim.stop.value = .ok none)
      (found : trimmed? scope trim.ending = .ok ending) :
      Stops scope trim whole position start speed (whole - ending.getD 0)

/-- The part of a source that a clip is cut to. -/
structure IsCut (scope : Scope ℚ) (trim : Trim ℚ) (whole position speed start stop : ℚ) :
    Prop where
  starts : ∃ before, trimmed? scope trim.start = .ok before ∧ start = before.getD 0
  stops : Stops scope trim whole position start speed stop
  ordered : start ≤ stop

/-- The natural length of a clip lasts up to where it is cut. -/
theorem exists_stops (positive : 0 < speed)
    (resolved : natural scope trim (some whole) given position start speed = .ok found) :
    ∃ stop, Stops scope trim whole position start speed stop ∧
      found = some ((stop - start) / speed) := by
  rcases natural_cases resolved with
    ⟨time, stopped, rfl⟩ | ⟨_, ⟨⟩, _⟩ | ⟨unstopped, _, kept, ⟨⟩, left, _, rfl⟩
  · refine ⟨_, .atOutput stopped, ?_⟩
    rw [add_sub_cancel_left, mul_div_cancel_right₀ _ positive.ne']
  · rcases remaining_cases left with ⟨stop, stopped, rfl⟩ | ⟨ungiven, ending, cutOff, rfl⟩
    · exact ⟨stop, .atSource unstopped stopped, rfl⟩
    · exact ⟨_, .beforeEnd unstopped ungiven cutOff, rfl⟩

/-- A clip with a source of known length is cut to a part of it.  It lasts up to the end of this
part, and a length that is given may be longer by less than a tolerance. -/
theorem exists_isCut (resolved : ofClip scope clip info position = .ok timing)
    (measured : info.bind MediaInfo.duration = some whole) (positive : 0 < timing.speed) :
    ∃ stop duration, timing.duration = some duration ∧
      IsCut scope clip.trim whole position timing.speed timing.trimStart stop ∧
      timing.trimStart + duration * timing.speed < stop + Scalar.tolerance * timing.speed ∧
      (clip.duration.isNull = true → timing.trimStart + duration * timing.speed = stop) := by
  rcases ofClip_cases resolved with
    ⟨start, given, natural, startResolved, start_eq, _, givenResolved, naturalResolved,
      duration_eq, checked⟩
  rw [measured] at naturalResolved checked
  obtain ⟨stop, stops, rfl⟩ := exists_stops positive naturalResolved
  obtain ⟨nonneg, enough⟩ := checked _ rfl
  have ordered : timing.trimStart ≤ stop := by
    rw [le_div_iff₀ positive, zero_mul] at nonneg
    linarith
  have lasts : (stop - timing.trimStart) / timing.speed * timing.speed = stop - timing.trimStart :=
    div_mul_cancel₀ _ positive.ne'
  have slack : 0 < Scalar.tolerance * timing.speed := mul_pos Scalar.tolerance_rat_pos positive
  refine ⟨stop, _, duration_eq, ⟨⟨start, startResolved, start_eq⟩, stops, ordered⟩, ?_, ?_⟩
  · cases given with
    | none =>
        rw [Option.getD_none, lasts]
        linarith
    | some manual =>
        have fits := Scalar.leApprox_rat_iff.mp (enough manual rfl rfl)
        have less : manual * timing.speed <
            ((stop - timing.trimStart) / timing.speed + Scalar.tolerance) * timing.speed :=
          mul_lt_mul_of_pos_right (by linarith) positive
        rw [add_mul, lasts] at less
        rw [Option.getD_some]
        linarith
  · intro ungiven
    rw [given?, if_pos ungiven] at givenResolved
    cases givenResolved
    rw [Option.getD_none, lasts]
    ring

/-! ## Cuts beyond the source -/

/-- The ways in which what is given of a trim goes beyond a source. -/
inductive Oversteps (scope : Scope ℚ) (trim : Trim ℚ) (whole position speed start : ℚ) : Prop
  | start {before : ℚ} (given : trimmed? scope trim.start = .ok (some before))
      (negative : before < 0)
  | ending {behind : ℚ} (given : trimmed? scope trim.ending = .ok (some behind))
      (negative : behind < 0)
  | stop {stop : ℚ} (given : given? scope trim.stop.value = .ok (some stop))
      (beyond : whole < stop)
  | stopAtOutput {time : ℚ} (given : given? scope trim.stopAtOutput.value = .ok (some time))
      (beyond : whole < start + (time - position) * speed)

/-- A trim of some seconds is given. -/
theorem isGiven_of_trimmed? {field : Field ℚ} {seconds : ℚ}
    (trimmed : trimmed? scope field = .ok (some seconds)) : field.isGiven = true := by
  by_contra absent
  rw [trimmed?, if_neg (by simp [absent])] at trimmed
  cases trimmed

theorem isGiven_of_given? {field : Field ℚ} {seconds : ℚ}
    (present : given? scope field.value = .ok (some seconds)) : field.isGiven = true := by
  by_contra absent
  rw [given?, if_pos (by simpa [Field.isGiven] using absent)] at present
  cases present

theorem given?_of_not_isGiven {field : Field ℚ} (absent : field.isGiven = false) :
    given? scope field.value = .ok none := by
  rw [given?, if_pos (by simpa [Field.isGiven] using absent)]

/-- A clip only plays if its trim has been checked. -/
theorem checkTrim_of_ofClip (resolved : ofClip scope clip info position = .ok timing) :
    Template.checkTrim clip.id clip.trim = .ok () := by
  obtain ⟨⟨⟩, checked, _⟩ := Result.bind_eq_ok_iff.mp resolved
  exact checked

/-- A cut goes beyond its source exactly in these ways. -/
theorem IsCut.oversteps_iff {id : String} (checked : Template.checkTrim id trim = .ok ())
    (cut : IsCut scope trim whole position speed start stop) :
    Oversteps scope trim whole position speed start ↔ start < 0 ∨ whole < stop := by
  obtain ⟨endingOnly, endingAlone, stopOnly⟩ := Template.exclusive_of_checkTrim checked
  obtain ⟨⟨before, startFound, rfl⟩, stops, _⟩ := cut
  constructor
  · intro oversteps
    cases oversteps with
    | start given negative =>
        cases startFound.symm.trans given
        exact .inl negative
    | ending given negative =>
        have isGiven := isGiven_of_trimmed? given
        have noStop : given? scope trim.stop.value = .ok none :=
          given?_of_not_isGiven (endingOnly isGiven)
        have noTime : given? scope trim.stopAtOutput.value = .ok none :=
          given?_of_not_isGiven (endingAlone isGiven)
        cases stops with
        | atOutput stopped => cases noTime.symm.trans stopped
        | atSource _ stopped => cases noStop.symm.trans stopped
        | beforeEnd _ _ found =>
            cases found.symm.trans given
            right
            rw [Option.getD_some]
            linarith
    | stop given beyond =>
        have noTime : given? scope trim.stopAtOutput.value = .ok none :=
          given?_of_not_isGiven (stopOnly (isGiven_of_given? given))
        cases stops with
        | atOutput stopped => cases noTime.symm.trans stopped
        | atSource _ stopped =>
            cases stopped.symm.trans given
            exact .inr beyond
        | beforeEnd _ ungiven _ => cases ungiven.symm.trans given
    | stopAtOutput given beyond =>
        cases stops with
        | atOutput stopped =>
            cases stopped.symm.trans given
            exact .inr beyond
        | atSource unstopped _ | beforeEnd unstopped _ _ => cases unstopped.symm.trans given
  · rintro (negative | beyond)
    · cases before with
      | none => exact absurd negative (lt_irrefl 0)
      | some before => exact .start startFound negative
    · cases stops with
      | atOutput given => exact .stopAtOutput given beyond
      | atSource _ given => exact .stop given beyond
      | @beforeEnd ending _ _ found =>
          cases ending with
          | none =>
              rw [Option.getD_none, sub_zero] at beyond
              exact absurd beyond (lt_irrefl whole)
          | some ending =>
              rw [Option.getD_some] at beyond
              exact .ending found (by linarith)

end Montage.Timing

namespace Montage

/-- The time of the source at which an entry leaves it. -/
def Entry.sourceEnd (entry : Entry ℚ) : ℚ :=
  entry.trimStart + entry.duration * entry.speed

namespace Timeline

variable {template : Template ℚ} {infos : MediaMap ℚ} {everyFit : Bool}
variable {total position duration length start : ℚ} {clip : Clip ℚ} {timing : Timing ℚ}
variable {rest : List String}

/-! ## Entries -/

/-- What an entry shows is a part of its source, up to a tolerance in time of the output for
each of the two comparisons that a length goes through. -/
structure ShowsWithin (entry : Entry ℚ) (start stop : ℚ) : Prop where
  start_lt : start - Scalar.tolerance * entry.speed < entry.trimStart
  lt_stop : entry.sourceEnd < stop + 2 * Scalar.tolerance * entry.speed

theorem ShowsWithin.mono {entry : Entry ℚ} {start stop first last : ℚ}
    (shows : ShowsWithin entry start stop) (before : first ≤ start) (after : stop ≤ last) :
    ShowsWithin entry first last := by
  obtain ⟨start_lt, lt_stop⟩ := shows
  exact ⟨by linarith, by linarith⟩

/-- A clip that does not fit is played as it is. -/
theorem eq_of_played_unfit (unfit : clip.isFit = false) (known : timing.duration = some duration)
    (plays : played template infos everyFit total position clip timing rest =
      .ok (some (length, start))) : length = duration ∧ start = timing.trimStart := by
  rcases played_cases plays with ⟨_, rfl, rfl⟩ | ⟨isFit, _⟩
  · rw [known]
    exact ⟨rfl, rfl⟩
  · cases unfit.symm.trans isFit

/-- A clip that is played keeps to what it shows of its source, up to a tolerance at each
end. -/
theorem within_of_played (positive : 0 < timing.speed) (known : timing.duration = some duration)
    (plays : played template infos everyFit total position clip timing rest =
      .ok (some (length, start))) :
    timing.trimStart - Scalar.tolerance * timing.speed < start ∧
      start + length * timing.speed <
        timing.trimStart + duration * timing.speed + Scalar.tolerance * timing.speed := by
  have slack : 0 < Scalar.tolerance * timing.speed := mul_pos Scalar.tolerance_rat_pos positive
  rcases played_cases plays with ⟨unfit, _⟩ | ⟨_, behind, _, kept⟩
  · obtain ⟨rfl, rfl⟩ := eq_of_played_unfit unfit known plays
    exact ⟨by linarith, by linarith⟩
  · rw [known, Option.getD_some, fitted_rat] at kept
    split at kept
    · cases kept
    · split at kept
      · -- what does not fit is given up at one of the ends
        rename_i shorter
        have less : (total - position - behind) * timing.speed <
            (duration + Scalar.tolerance) * timing.speed :=
          mul_lt_mul_of_pos_right shorter positive
        rw [add_mul] at less
        cases kept
        split
        · exact ⟨by linarith, by linarith⟩
        · exact ⟨by linarith, by linarith⟩
      · cases kept
        exact ⟨by linarith, by linarith⟩

/-- What an entry shows of a source of known length.  It keeps to the part that its clip is cut
to, and so to the source, unless what is given of the trim goes beyond the source.  Where it
does, so does an entry of a clip that does not fit and has no length given. -/
theorem showsWithin_of_mem {directory : Path} {value : Value ℚ} {timeline : Timeline ℚ}
    {entry : Entry ℚ} {whole : ℚ} (accepted : Template.read directory value = .ok template)
    (resolved : template.resolveTimeline infos = .ok timeline)
    (member : entry ∈ timeline.entries)
    (measured : (infos.lookup entry.clipId).bind MediaInfo.duration = some whole) :
    ∃ clip start stop, template.clip entry.clipId = .ok clip ∧
      Timing.IsCut template.scope clip.trim whole entry.startAt entry.speed start stop ∧
      ShowsWithin entry start stop ∧
      (¬Timing.Oversteps template.scope clip.trim whole entry.startAt entry.speed start →
        ShowsWithin entry 0 whole) ∧
      (clip.isFit = false → clip.duration.isNull = true →
        (Timing.Oversteps template.scope clip.trim whole entry.startAt entry.speed start ↔
          entry.trimStart < 0 ∨ whole < entry.sourceEnd)) := by
  obtain ⟨resolution⟩ := exists_resolution resolved
  obtain ⟨clip, timing, rest, found, timed, plays, speed_eq⟩ :=
    resolution.exists_played_of_mem member
  obtain ⟨_, _, _, _, _, factorFound, _⟩ := Timing.ofClip_cases timed
  have positive : 0 < timing.speed :=
    Template.speed_pos accepted (Template.mem_clips_of_clip found) factorFound
  obtain ⟨stop, duration, known, cut, lt_stop, exactly⟩ :=
    Timing.exists_isCut timed measured positive
  obtain ⟨start_lt, end_lt⟩ := within_of_played positive known plays
  rw [← speed_eq] at cut lt_stop start_lt end_lt exactly
  have oversteps_iff := cut.oversteps_iff (Timing.checkTrim_of_ofClip timed)
  have shows : ShowsWithin entry timing.trimStart stop := by
    refine ⟨start_lt, ?_⟩
    rw [Entry.sourceEnd]
    linarith
  refine ⟨clip, timing.trimStart, stop, found, cut, shows, fun inside => ?_,
    fun unfit ungiven => ?_⟩
  · rw [oversteps_iff, not_or, not_lt, not_lt] at inside
    exact shows.mono inside.1 inside.2
  · obtain ⟨length_eq, start_eq⟩ := eq_of_played_unfit unfit known plays
    rw [oversteps_iff, Entry.sourceEnd, length_eq, start_eq, exactly ungiven]

/-! ## A clip inside its source and one beyond it -/

/-- A template with two clips of six seconds.  One is trimmed at both ends, and the other stops
at a time of the output that comes long after its source has ended, and is given fifty
seconds. -/
def cutSource : Value ℚ :=
  .map
    [(.text "clips", .list
      [.map [(.text "id", .text "inside"), (.text "file", .text "inside.mp4"),
          (.text "speed", .text "200%"),
          (.text "trim", .map [(.text "start", .number 1), (.text "end", .number 2)])],
        .map [(.text "id", .text "beyond"), (.text "file", .text "beyond.mp4"),
          (.text "duration", .number 50),
          (.text "trim", .map [(.text "stop_at_output", .number 100)])]]),
      (.text "timeline", .map [(.number 0, .list
        [.list [.text "inside"], .list [.text "beyond"]])])]

/-- The template that is read from it. -/
def cutTemplate : Template ℚ where
  clips :=
    [{ Clip.plain "inside" "/inside.mp4" with
        speed := some "200%", trim := ⟨some (.number 1), some (.number 2), none, none⟩ },
      { Clip.plain "beyond" "/beyond.mp4" with
        duration := .number 50, trim := ⟨none, none, none, some (.number 100)⟩ }]
  size := ⟨.text "100%", .text "100%", some "inside", "black"⟩
  timeline := [(.number 0, [⟨["inside"], 0⟩, ⟨["beyond"], 1⟩])]
  preview := .text "00:00:00"
  keypoints := []
  directory := ⟨"/", []⟩

/-- The lengths of its sources. -/
def cutInfos : MediaMap ℚ :=
  [("inside", ⟨0, 0, 30, some 6, none, false, .video⟩),
    ("beyond", ⟨0, 0, 30, some 6, none, false, .video⟩)]

theorem read_cutSource : Template.read ⟨"/", []⟩ cutSource = .ok cutTemplate := by
  with_unfolding_all rfl

theorem exists_cutTimeline : ∃ timeline, cutTemplate.resolveTimeline cutInfos = .ok timeline ∧
    timeline.entries = [⟨"inside", 0, 3 / 2, 1, 2, 0⟩, ⟨"beyond", 0, 50, 0, 1, 1⟩] := by
  have evaluated : (cutTemplate.resolveTimeline cutInfos).toOption.map Timeline.total =
      some 50 := by
    decide +kernel
  have inside : entriesFrom cutTemplate cutInfos false 50 0 0 ["inside"] =
      .ok [⟨"inside", 0, 3 / 2, 1, 2, 0⟩] :=
    Result.toOption_eq_some_iff.mp (by decide +kernel)
  have beyond : entriesFrom cutTemplate cutInfos false 50 1 0 ["beyond"] =
      .ok [⟨"beyond", 0, 50, 0, 1, 1⟩] :=
    Result.toOption_eq_some_iff.mp (by decide +kernel)
  obtain ⟨timeline, resolved, _, entries_eq⟩ :=
    exists_of_rows evaluated rfl rfl (.cons inside (.cons beyond .nil)) (by decide +kernel)
  exact ⟨timeline, resolved, entries_eq⟩

/-- The trims of the first clip do not go beyond its source, and neither does its entry. -/
theorem cutTemplate_showsWithin :
    ∃ timeline entry, cutTemplate.resolveTimeline cutInfos = .ok timeline ∧
      entry ∈ timeline.entries ∧ entry.clipId = "inside" ∧ ShowsWithin entry 0 6 := by
  obtain ⟨timeline, resolved, entries_eq⟩ := exists_cutTimeline
  have member : ⟨"inside", 0, 3 / 2, 1, 2, 0⟩ ∈ timeline.entries := by simp [entries_eq]
  obtain ⟨clip, start, stop, found, _, _, inside, _⟩ :=
    showsWithin_of_mem read_cutSource resolved member rfl
  cases found
  refine ⟨timeline, _, resolved, member, rfl, inside fun oversteps => ?_⟩
  cases oversteps with
  | start given negative =>
      cases given
      norm_num at negative
  | ending given negative =>
      cases given
      norm_num at negative
  | stop given | stopAtOutput given => cases given

/-- In a template that is read and resolved, an entry leaves its source of six seconds at fifty
seconds. -/
theorem cutTemplate_shows_beyond :
    Template.read ⟨"/", []⟩ cutSource = .ok cutTemplate ∧
      ∃ timeline entry, cutTemplate.resolveTimeline cutInfos = .ok timeline ∧
        entry ∈ timeline.entries ∧
        (cutInfos.lookup entry.clipId).bind MediaInfo.duration = some 6 ∧
        entry.sourceEnd = 50 := by
  obtain ⟨timeline, resolved, entries_eq⟩ := exists_cutTimeline
  exact ⟨read_cutSource, timeline, ⟨"beyond", 0, 50, 0, 1, 1⟩, resolved, by simp [entries_eq], rfl,
    by norm_num [Entry.sourceEnd]⟩

end Timeline

end Montage
