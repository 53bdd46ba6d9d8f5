import Montage.Proofs.Timeline.Layers
import Montage.Proofs.Timeline.Stack
import Montage.Template.Reading

/-!
# Rows go forward

A length is found, and then it is checked not to be negative.  A length that is given takes
its place only behind this check, so a clip whose source has a length, or that stops at a time
of the output, may be given a negative one.  That is the only way in which an entry ends before
it begins.  In rows without such a clip every entry follows the one before it.  A padding may
pull the cursor back by less than a tolerance, and however many there are between two entries,
they do not pull it back by more.
-/

namespace Montage.Timing

variable {scope : Scope ℚ} {clip : Clip ℚ} {info : Option (MediaInfo ℚ)} {position : ℚ}
variable {timing : Timing ℚ}

/-- A negative length is given to a clip in place of another one, which is the one that is
checked. -/
structure Reverses (scope : Scope ℚ) (clip : Clip ℚ) (info : Option (MediaInfo ℚ)) (length : ℚ) :
    Prop where
  given : given? scope clip.duration = .ok (some length)
  negative : length < 0
  replaces : (info.bind MediaInfo.duration).isSome ∨ clip.trim.stopAtOutput.isGiven = true

/-- A clip plays for a negative time exactly if it is given one. -/
theorem duration_neg_iff (resolved : ofClip scope clip info position = .ok timing) :
    (∃ duration, timing.duration = some duration ∧ duration < 0) ↔
      ∃ length, Reverses scope clip info length := by
  rcases ofClip_cases resolved with
    ⟨_, given, natural, _, _, _, givenResolved, naturalResolved, duration_eq, checked⟩
  constructor
  · rintro ⟨duration, known, negative⟩
    rw [duration_eq, Option.map_eq_some_iff] at known
    obtain ⟨found, rfl, rfl⟩ := known
    have found_nonneg : 0 ≤ found := (checked found rfl).1
    cases given with
    | none => exact absurd negative (not_lt.mpr found_nonneg)
    | some length =>
        rw [Option.getD_some] at negative
        refine ⟨length, givenResolved, negative, ?_⟩
        rcases natural_cases naturalResolved with
          ⟨stop, stops, _⟩ | ⟨_, _, same⟩ | ⟨_, whole, _, measured, _⟩
        · right
          by_contra unstopped
          have absent : clip.trim.stopAtOutput.value.isNull = true := by
            simpa [Field.isGiven] using unstopped
          rw [given?, if_pos absent] at stops
          cases stops
        · -- a given length without another one has been checked itself
          cases same
          exact absurd negative (not_lt.mpr found_nonneg)
        · exact .inl (by simp [measured])
  · rintro ⟨length, isGiven, negative, _⟩
    cases givenResolved.symm.trans isGiven
    cases natural with
    | none =>
        have absent := (natural_eq_none naturalResolved).2.2
        cases absent
    | some found => exact ⟨length, duration_eq, negative⟩

end Montage.Timing

namespace Montage.Timeline

variable {template : Template ℚ} {infos : MediaMap ℚ} {everyFit : Bool} {zIndex : Int}
variable {position total ended length start behind : ℚ} {id : String} {rest row : List String}
variable {clip : Clip ℚ} {timing : Timing ℚ} {entries : List (Entry ℚ)}

/-! ## Entries that end before they begin -/

/-- A clip of a template is given a negative length in place of another one. -/
def IsReversed (template : Template ℚ) (infos : MediaMap ℚ) (id : String) : Prop :=
  ∃ clip length, template.clip id = .ok clip ∧
    Timing.Reverses template.scope clip (infos.lookup id) length

/-- A clip without a length is played only if there is time left for it. -/
theorem tolerance_le_of_unknown (unknown : timing.duration = none)
    (plays : played template infos everyFit total position clip timing rest =
      .ok (some (length, start))) : Scalar.tolerance ≤ total - position := by
  by_contra late
  have leftOut : Scalar.leApprox (total - position) 0 = true := by
    rw [Scalar.leApprox_rat_iff]
    linarith
  simp [played, unknown, leftOut] at plays

/-- A clip that fits only lasts for a negative time if it did before it was shortened. -/
theorem fitted_neg_iff {duration : ℚ} {endFits : Bool}
    (kept : fitted total position behind duration endFits timing = some (length, start)) :
    length < 0 ↔ duration < 0 := by
  have positive : (0 : ℚ) < Scalar.tolerance := Scalar.tolerance_rat_pos
  rw [fitted_rat] at kept
  split at kept
  · cases kept
  · split at kept
    · cases kept
      constructor <;> intro negative <;> linarith
    · cases kept
      exact Iff.rfl

/-- An entry lasts for a negative time exactly if its clip does. -/
theorem length_neg_iff
    (plays : played template infos everyFit total position clip timing rest =
      .ok (some (length, start))) :
    length < 0 ↔ ∃ duration, timing.duration = some duration ∧ duration < 0 := by
  have lasts : length < 0 ↔ timing.duration.getD (total - position) < 0 := by
    rcases played_cases plays with ⟨_, rfl, _⟩ | ⟨_, behind, _, kept⟩
    · exact Iff.rfl
    · exact fitted_neg_iff kept
  rw [lasts]
  cases known : timing.duration with
  | none =>
      have room := tolerance_le_of_unknown known plays
      have positive : (0 : ℚ) < Scalar.tolerance := Scalar.tolerance_rat_pos
      simp only [Option.getD_none, reduceCtorEq, false_and, exists_false, iff_false, not_lt]
      exact positive.le.trans room
  | some duration => simp

theorem duration_neg_iff_of_mem_row
    (walked : entriesFrom template infos everyFit total zIndex position row = .ok entries) :
    ∀ entry ∈ entries, entry.duration < 0 ↔ IsReversed template infos entry.clipId := by
  intro entry member
  obtain ⟨clip, timing, rest, found, resolved, plays, _⟩ :=
    exists_played_of_mem_row walked entry member
  rw [length_neg_iff plays, Timing.duration_neg_iff resolved]
  constructor
  · rintro ⟨given, reverses⟩
    exact ⟨clip, given, found, reverses⟩
  · rintro ⟨clip', given, found', reverses⟩
    cases found.symm.trans found'
    exact ⟨given, reverses⟩

/-- A clip that is not given a negative length does not end before it begins. -/
theorem length_nonneg (forward : ¬IsReversed template infos id)
    (found : template.clip id = .ok clip)
    (resolved : Timing.ofClip template.scope clip (infos.lookup id) position = .ok timing)
    (plays : played template infos everyFit total position clip timing rest =
      .ok (some (length, start))) : 0 ≤ length := by
  by_contra negative
  rw [not_le, length_neg_iff plays, Timing.duration_neg_iff resolved] at negative
  obtain ⟨given, reverses⟩ := negative
  exact forward ⟨clip, given, found, reverses⟩

/-! ## Entries that follow one another -/

/-- An entry begins when another has ended, or less than a tolerance before that. -/
def Follows (before after : Entry ℚ) : Prop :=
  before.endAt < after.startAt + Scalar.tolerance

/-- A row has been measured, wherever that was, to end within the output. -/
def EndsWithin (template : Template ℚ) (infos : MediaMap ℚ) (everyFit : Bool) (total : ℚ)
    (row : List String) : Prop :=
  ∃ measuredAt length, counted template infos everyFit measuredAt row = .ok length ∧
    measuredAt + length ≤ total

/-- What lies behind the cursor of a walk that has come past the end of an entry: no padding
in the rest of the row can pull the cursor back by a tolerance from there. -/
structure Trails (template : Template ℚ) (infos : MediaMap ℚ) (everyFit : Bool)
    (total ended position : ℚ) (row : List String) : Prop where
  late : ended < position + Scalar.tolerance
  measured : ∃ measuredAt length, counted template infos everyFit measuredAt row = .ok length ∧
    measuredAt + length ≤ total ∧
    (ended ≤ position ∨ ended < total - length + Scalar.tolerance)

theorem Trails.after_padding
    (trails : Trails template infos everyFit total ended position (Layer.padding :: rest))
    (measured : counted template infos everyFit position rest = .ok behind) :
    Trails template infos everyFit total ended (afterPadding total position behind) rest := by
  obtain ⟨late, measuredAt, length, measuredThere, within, bound⟩ := trails
  rw [counted_cons_padding] at measuredThere
  rw [afterPadding_rat]
  split
  · rename_i moves
    rcases counted_at_other measured measuredThere with rfl | ends
    · -- the rest counts for the same everywhere, so all paddings move the cursor to one place
      have pulled : ended < total - behind + Scalar.tolerance := by
        rcases bound with reached | bound
        · linarith
        · exact bound
      exact ⟨pulled, measuredAt, behind, measuredThere, within, .inr pulled⟩
    · -- the rest ends at the same time everywhere, which is not behind the output
      have forward : position ≤ total - behind := by linarith
      exact ⟨by linarith, measuredAt, length, measuredThere, within,
        bound.imp_left fun reached => reached.trans forward⟩
  · exact ⟨late, measuredAt, length, measuredThere, within, bound⟩

/-- What a clip counts for is not negative, unless it is given a negative length. -/
theorem weight_nonneg (found : template.clip id = .ok clip)
    (resolved : Timing.ofClip template.scope clip (infos.lookup id) position = .ok timing)
    (forward : ¬IsReversed template infos id) : 0 ≤ weight everyFit clip timing := by
  rw [weight]
  split
  · exact le_rfl
  · by_contra negative
    apply forward
    cases known : timing.duration with
    | none => simp [known] at negative
    | some duration =>
        rw [known, Option.getD_some, not_le] at negative
        obtain ⟨given, reverses⟩ :=
          (Timing.duration_neg_iff resolved).mp ⟨duration, known, negative⟩
        exact ⟨clip, given, found, reverses⟩

theorem Trails.after_leftOut
    (trails : Trails template infos everyFit total ended position (id :: rest))
    (clipId : id ≠ Layer.padding) (forward : ¬IsReversed template infos id) :
    Trails template infos everyFit total ended position rest := by
  obtain ⟨late, measuredAt, _, measured, within, bound⟩ := trails
  rcases counted_cons_cases measured with
    ⟨pad, _⟩ | ⟨_, clip, timing, later, found, resolved, measuredRest, rfl⟩
  · exact absurd pad clipId
  · have nonneg : 0 ≤ weight everyFit clip timing := weight_nonneg found resolved forward
    exact ⟨late, _, later, measuredRest, by linarith,
      bound.imp_right fun bound => by linarith⟩

/-- Where the cursor goes forward, the walk stays past the end of the entry. -/
theorem Trails.mono {later : ℚ} (trails : Trails template infos everyFit total ended position row)
    (order : position ≤ later) : Trails template infos everyFit total ended later row := by
  obtain ⟨late, measuredAt, length, measured, within, bound⟩ := trails
  exact ⟨by linarith, measuredAt, length, measured, within,
    bound.imp_left fun reached => reached.trans order⟩

/-- What a walk knows of the rest of a row: it ends within the output, or all its clips
fit. -/
def IsBounded (template : Template ℚ) (infos : MediaMap ℚ) (everyFit : Bool) (total : ℚ)
    (row : List String) : Prop :=
  match everyFit with
  | false => EndsWithin template infos false total row
  | true => ∀ id ∈ row, id ≠ Layer.padding → ∀ clip, template.clip id = .ok clip →
      clip.isFit = true

theorem IsBounded.tail (bounded : IsBounded template infos everyFit total (id :: rest)) :
    IsBounded template infos everyFit total rest := by
  cases everyFit with
  | true => exact fun other member => bounded other (List.mem_cons_of_mem id member)
  | false =>
      obtain ⟨measuredAt, length, measured, within⟩ := bounded
      rcases counted_cons_cases measured with
        ⟨_, measuredRest⟩ | ⟨_, clip, timing, later, _, _, measuredRest, rfl⟩
      · exact ⟨measuredAt, length, measuredRest, within⟩
      · exact ⟨_, later, measuredRest, by linarith⟩

/-- Behind an entry the walk has come past its end. -/
theorem trails_of_played (bounded : IsBounded template infos everyFit total (id :: rest))
    (clipId : id ≠ Layer.padding) (found : template.clip id = .ok clip) (nonneg : 0 ≤ length)
    (plays : played template infos everyFit total position clip timing rest =
      .ok (some (length, start))) :
    Trails template infos everyFit total (position + length) (position + length) rest := by
  have late : position + length < position + length + Scalar.tolerance :=
    lt_add_of_pos_right _ Scalar.tolerance_rat_pos
  have within : EndsWithin template infos everyFit total rest := by
    cases everyFit with
    | false => exact bounded.tail
    | true =>
        rcases played_cases plays with ⟨unfit, _, _⟩ | ⟨_, behind, measured, kept⟩
        · have isFit := bounded id List.mem_cons_self clipId clip found
          rw [unfit] at isFit
          contradiction
        · -- a clip that fits is measured against the rest of the row where it begins
          have fitsIn : position + length + behind ≤ total :=
            (fitted_cases kept).elim (fun exactly => exactly.1.le) fun spare => spare.2
          exact ⟨position, behind, measured, by linarith⟩
  obtain ⟨measuredAt, behind, measured, ends⟩ := within
  exact ⟨late, measuredAt, behind, measured, ends, .inl le_rfl⟩

/-- No clip of a row is given a negative length in place of another one. -/
def GoesForward (template : Template ℚ) (infos : MediaMap ℚ) (row : List String) : Prop :=
  ∀ id ∈ row, id ≠ Layer.padding → ¬IsReversed template infos id

/-- No entry of a row that goes forward ends before it begins. -/
theorem duration_nonneg_of_mem_row (forward : GoesForward template infos row)
    (walked : entriesFrom template infos everyFit total zIndex position row = .ok entries) :
    ∀ entry ∈ entries, 0 ≤ entry.duration := by
  intro entry member
  obtain ⟨inRow, clipId⟩ := clipId_mem_of_mem_row walked entry member
  rw [← not_lt, duration_neg_iff_of_mem_row walked entry member]
  exact forward entry.clipId inRow clipId

/-- Every entry of a row that goes forward follows all entries before it. -/
theorem pairwise_follows_of_entriesFrom (bounded : IsBounded template infos everyFit total row)
    (forward : GoesForward template infos row)
    (walked : entriesFrom template infos everyFit total zIndex position row = .ok entries) :
    entries.Pairwise Follows ∧
      ∀ ended, Trails template infos everyFit total ended position row →
        ∀ entry ∈ entries, ended < entry.startAt + Scalar.tolerance := by
  induction row generalizing position entries with
  | nil =>
      cases walked
      simp
  | cons id rest ih =>
      obtain ⟨here, forwardRest⟩ := List.forall_mem_cons.mp forward
      rcases entriesFrom_cons_cases walked with
        ⟨rfl, behind, measured, walkedRest⟩ | ⟨clipId, clip, timing, found, resolved, walk⟩
      · obtain ⟨follow, begin⟩ := ih bounded.tail forwardRest walkedRest
        exact ⟨follow, fun ended trails => begin ended (trails.after_padding measured)⟩
      · rcases walk with ⟨_, walkedRest⟩ | ⟨length, start, later, plays, walkedRest, rfl⟩
        · obtain ⟨follow, begin⟩ := ih bounded.tail forwardRest walkedRest
          exact ⟨follow, fun ended trails =>
            begin ended (trails.after_leftOut clipId (here clipId))⟩
        · obtain ⟨follow, begin⟩ := ih bounded.tail forwardRest walkedRest
          have nonneg : 0 ≤ length := length_nonneg (here clipId) found resolved plays
          have trails := trails_of_played bounded clipId found nonneg plays
          refine ⟨List.pairwise_cons.mpr ⟨begin _ trails, follow⟩, fun ended trailed => ?_⟩
          refine List.forall_mem_cons.mpr ⟨trailed.late, begin ended ?_⟩
          exact (trailed.after_leftOut clipId (here clipId)).mono (by linarith)

theorem isChain_follows_of_entriesFrom (bounded : IsBounded template infos everyFit total row)
    (forward : GoesForward template infos row)
    (walked : entriesFrom template infos everyFit total zIndex position row = .ok entries) :
    entries.IsChain Follows ∧
      ∀ ended, Trails template infos everyFit total ended position row →
        ∀ first ∈ entries.head?, ended < first.startAt + Scalar.tolerance := by
  obtain ⟨follow, begin⟩ := pairwise_follows_of_entriesFrom bounded forward walked
  exact ⟨follow.isChain, fun ended trails first isFirst =>
    begin ended trails first (List.mem_of_mem_head? isFirst)⟩

/-! ## Layers -/

/-- How the entries of a layer go forward.  An entry ends before it begins exactly if its clip
is given a negative length in place of another one, and in a layer without such a clip every
entry follows the one before it. -/
structure Advances (template : Template ℚ) (infos : MediaMap ℚ) (clips : List String)
    (row : List (Entry ℚ)) : Prop where
  duration_neg_iff : ∀ entry ∈ row, entry.duration < 0 ↔ IsReversed template infos entry.clipId
  follows : GoesForward template infos clips → row.IsChain Follows

theorem Resolution.isBounded_of_mem {timeline : Timeline ℚ}
    (resolution : Resolution template infos timeline) {start : ℚ} {layer : Layer}
    (member : (start, layer) ∈ layers resolution.starts) :
    IsBounded template infos resolution.everyFit timeline.total layer.clips := by
  cases mode : resolution.everyFit with
  | false =>
      obtain ⟨length, measured, ends⟩ := resolution.measured_of_mem mode member
      exact ⟨start, length, measured, ends⟩
  | true =>
      intro id inLayer clipId clip found
      exact resolution.isFit_of_mem mode member inLayer clipId found

/-- The entries of every layer of a resolved timeline go forward, but for those whose clips
are given negative lengths. -/
theorem advances_rows {timeline : Timeline ℚ}
    (resolved : template.resolveTimeline infos = .ok timeline) :
    ∃ starts rows, Timeline.starts template = .ok starts ∧
      IsStack rows.flatten timeline.entries ∧
      List.Forall₂ (fun placed row => Advances template infos placed.2.clips row)
        (layers starts) rows := by
  obtain ⟨resolution⟩ := exists_resolution resolved
  refine ⟨resolution.starts, resolution.rows, resolution.starts_eq, ?_, ?_⟩
  · rw [resolution.entries_eq]
    exact isStack_stacked _
  · have walked := (List.forall₂_and_left _ _).mpr
      ⟨fun _ member => member, Result.mapM_eq_ok_iff.mp resolution.rows_eq⟩
    refine walked.imp ?_
    rintro ⟨start, layer⟩ row ⟨placed, walked⟩
    refine ⟨duration_neg_iff_of_mem_row walked, fun forward => ?_⟩
    exact (isChain_follows_of_entriesFrom (resolution.isBounded_of_mem placed) forward walked).1

/-! ## A clip of minus one second -/

/-- A template in which a clip of six seconds is given minus one second.  It is in front of
another clip, and beside a layer with a padding. -/
def reversedSource : Value ℚ :=
  .map
    [(.text "clips", .list
      [.map [(.text "id", .text "back"), (.text "file", .text "back.mp4"),
          (.text "duration", .number (-1))],
        .map [(.text "id", .text "next"), (.text "file", .text "next.mp4")]]),
      (.text "timeline", .map [(.number 0, .list
        [.list [.text "back", .text "next"], .list [.text "next", .text "PAD", .text "next"]])])]

/-- The template that is read from it. -/
def reversedTemplate : Template ℚ where
  clips :=
    [{ Clip.plain "back" "/back.mp4" with duration := .number (-1) },
      .plain "next" "/next.mp4"]
  size := ⟨.text "100%", .text "100%", some "back", "black"⟩
  timeline := [(.number 0, [⟨["back", "next"], 0⟩, ⟨["next", "PAD", "next"], 1⟩])]
  preview := .text "00:00:00"
  keypoints := []
  directory := ⟨"/", []⟩

/-- The lengths of its sources. -/
def reversedInfos : MediaMap ℚ :=
  [("back", ⟨0, 0, 30, some 6, none, false, .video⟩),
    ("next", ⟨0, 0, 30, some 4, none, false, .video⟩)]

theorem reversedTemplate_goesForward :
    GoesForward reversedTemplate reversedInfos ["next", "PAD", "next"] := by
  rintro id member clipId ⟨clip, length, found, reverses⟩
  simp only [List.mem_cons, List.not_mem_nil, or_false] at member
  rcases member with rfl | rfl | rfl <;> cases found <;> cases reverses.given

/-- The padded layer goes forward beside the one that does not. -/
theorem reversedTemplate_advances :
    ∃ timeline row other, reversedTemplate.resolveTimeline reversedInfos = .ok timeline ∧
      IsStack (row ++ other) timeline.entries ∧
      Advances reversedTemplate reversedInfos ["back", "next"] row ∧ other.IsChain Follows := by
  have evaluated : (reversedTemplate.resolveTimeline reversedInfos).toOption.map
      Timeline.total = some 8 := by
    decide +kernel
  obtain ⟨timeline, resolved, _⟩ := exists_of_map_total evaluated
  obtain ⟨starts, rows, starts_eq, isStack, advances⟩ := advances_rows resolved
  cases starts_eq
  obtain ⟨row, others, first, rest, rfl⟩ := List.forall₂_cons_left_iff.mp advances
  obtain ⟨other, _, second, ⟨⟩, rfl⟩ := List.forall₂_cons_left_iff.mp rest
  rw [List.flatten_cons, List.flatten_singleton] at isStack
  exact ⟨timeline, row, other, resolved, isStack, first,
    second.follows reversedTemplate_goesForward⟩

/-- In a template that is read and resolved, an entry ends before it begins, and the entry
behind it begins before it, which is before the output does. -/
theorem reversedTemplate_runs_backwards :
    Template.read ⟨"/", []⟩ reversedSource = .ok reversedTemplate ∧
      ∃ timeline, reversedTemplate.resolveTimeline reversedInfos = .ok timeline ∧
        timeline.entries =
          [⟨"back", 0, -1, 0, 1, 0⟩, ⟨"next", -1, 4, 0, 1, 0⟩, ⟨"next", 0, 4, 0, 1, 1⟩,
            ⟨"next", 4, 4, 0, 1, 1⟩] := by
  have evaluated : (reversedTemplate.resolveTimeline reversedInfos).toOption.map
      Timeline.total = some 8 := by
    decide +kernel
  have first : entriesFrom reversedTemplate reversedInfos false 8 0 0 ["back", "next"] =
      .ok [⟨"back", 0, -1, 0, 1, 0⟩, ⟨"next", -1, 4, 0, 1, 0⟩] :=
    Result.toOption_eq_some_iff.mp (by decide +kernel)
  have second : entriesFrom reversedTemplate reversedInfos false 8 1 0 ["next", "PAD", "next"] =
      .ok [⟨"next", 0, 4, 0, 1, 1⟩, ⟨"next", 4, 4, 0, 1, 1⟩] :=
    Result.toOption_eq_some_iff.mp (by decide +kernel)
  obtain ⟨timeline, resolved, _, entries_eq⟩ :=
    exists_of_rows evaluated rfl rfl (.cons first (.cons second .nil)) (by decide +kernel)
  exact ⟨rfl, timeline, resolved, entries_eq⟩

end Montage.Timeline
