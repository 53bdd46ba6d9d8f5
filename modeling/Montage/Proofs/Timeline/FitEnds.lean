import Montage.Proofs.Timeline.Cut
import Montage.Proofs.Timeline.Walk

/-!
# Which end of a clip that fits is kept

A clip that fits gets the room that the rest of its layer leaves of the output, counted from
where the cursor is when the walk comes by it.  If it is longer, it gives up one of its ends.
With the word at its end it keeps its beginning, and with the word at its start alone it keeps
its end, in time of the source.  How long it is, is read from its fields without these words.
-/

namespace Montage

/-! ## Without the words -/

section Words

variable {α : Type}

/-- A field of a trim that is not given if it has the word that fits. -/
def Field.unlessFit (field : Field α) : Field α :=
  if field.isFit then none else field

/-- A trim without the words that fit it to the output. -/
def Trim.withoutFit (trim : Trim α) : Trim α :=
  { trim with start := trim.start.unlessFit, ending := trim.ending.unlessFit }

/-- A clip that is trimmed as before, except that it does not fit. -/
def Clip.withoutFit (clip : Clip α) : Clip α :=
  { clip with trim := clip.trim.withoutFit }

theorem Field.isGiven_of_unlessFit {field : Field α} (given : field.unlessFit.isGiven = true) :
    field.isGiven = true := by
  rw [unlessFit] at given
  split at given
  · cases given
  · exact given

end Words

namespace Timing

section Resolving

variable {α : Type} [Scalar α] {scope : Scope α} {clip : Clip α} {info : Option (MediaInfo α)}
variable {position : α} {timing : Timing α}

/-- A word that fits does not trim anything by itself. -/
theorem trimmed?_unlessFit (scope : Scope α) (field : Field α) :
    trimmed? scope field.unlessFit = trimmed? scope field := by
  cases fits : field.isFit with
  | true => simp [trimmed?, Field.unlessFit, fits, Field.isGiven, Field.value, Value.isNull]
  | false => simp [Field.unlessFit, fits]

theorem natural_withoutFit (scope : Scope α) (trim : Trim α) :
    natural scope trim.withoutFit = natural scope trim := by
  funext source given position trimStart speed
  simp only [natural, remaining, Trim.withoutFit, trimmed?_unlessFit]

/-- A trim passes the checks without the words that fit if it passes them with the words. -/
theorem checkTrim_withoutFit {id : String} {trim : Trim α}
    (checked : Template.checkTrim id trim = .ok ()) :
    Template.checkTrim id trim.withoutFit = .ok () := by
  have fewer : (Template.exclusiveTrims trim.withoutFit).length ≤
      (Template.exclusiveTrims trim).length := by
    have ending : (if trim.withoutFit.ending.isGiven then ["end"] else []).length ≤
        (if trim.ending.isGiven then ["end"] else []).length := by
      by_cases given : trim.withoutFit.ending.isGiven = true
      · rw [if_pos given, if_pos (Field.isGiven_of_unlessFit given)]
      · rw [if_neg given]
        exact Nat.zero_le _
    simp only [Template.exclusiveTrims, List.length_append]
    exact Nat.add_le_add_right (Nat.add_le_add_right ending _) _
  simp only [Template.checkTrim] at checked ⊢
  split at checked
  · cases checked
  · rename_i few
    rw [if_neg fun several => few (lt_of_lt_of_le several fewer)]
    exact checked

/-- A clip that fits plays from a position on as it would without the words that fit it. -/
theorem ofClip_withoutFit (resolved : ofClip scope clip info position = .ok timing) :
    ofClip scope clip.withoutFit info position = .ok timing := by
  obtain ⟨⟨⟩, checked, rest⟩ := Result.bind_eq_ok_iff.mp resolved
  refine Result.bind_eq_ok_iff.mpr ⟨(), checkTrim_withoutFit checked, ?_⟩
  have start_eq : trimmed? scope clip.withoutFit.trim.start = trimmed? scope clip.trim.start :=
    trimmed?_unlessFit scope clip.trim.start
  have natural_eq : natural scope clip.withoutFit.trim = natural scope clip.trim :=
    natural_withoutFit scope clip.trim
  rw [start_eq, natural_eq]
  exact rest

end Resolving

end Timing

namespace Timeline

variable {template : Template ℚ} {infos : MediaMap ℚ} {everyFit : Bool} {zIndex : Int}
variable {total start cursor behind : ℚ} {id : String} {before after rest row : List String}
variable {clip : Clip ℚ} {timing : Timing ℚ} {opening entries : List (Entry ℚ)}

/-! ## One clip -/

/-- A clip that fits is shortened to the room in front of a row that counts for something, also
if it has no length and no time is left for it. -/
theorem played_eq_of_isFit (isFit : clip.isFit = true)
    (measured : counted template infos everyFit cursor rest = .ok behind) (nonneg : 0 ≤ behind) :
    played template infos everyFit total cursor clip timing rest =
      .ok (fitted total cursor behind (timing.duration.getD (total - cursor))
        clip.trim.ending.isFit timing) := by
  rw [played]
  split
  · rename_i late
    rw [Bool.and_eq_true, Scalar.leApprox_rat_iff, Scalar.ofInt_rat, Int.cast_zero] at late
    obtain ⟨unknown, late⟩ := late
    rw [Option.isNone_iff_eq_none] at unknown
    rw [unknown, Option.getD_none] at late ⊢
    rw [fitted_rat, if_pos (by linarith)]
  · rw [measured]
    rfl

/-- The entry of a clip that fits.  It begins at the cursor and is as long as the clip, or as
the room that there is for it, which are told apart up to a tolerance.  What it shows begins
where the clip begins if the end of the clip fits, and ends where the clip ends otherwise. -/
structure KeepsEnd (clip : Clip ℚ) (id : String) (cursor room length : ℚ) (timing : Timing ℚ)
    (entry : Entry ℚ) : Prop where
  clipId : entry.clipId = id
  startAt : entry.startAt = cursor
  speed : entry.speed = timing.speed
  duration : (entry.duration = length ∧ length ≤ room) ∨
    (entry.duration = room ∧ room < length + Scalar.tolerance)
  trimStart : clip.trim.ending.isFit = true → entry.trimStart = timing.trimStart
  sourceEnd : clip.trim.ending.isFit = false →
    entry.sourceEnd = timing.trimStart + length * timing.speed

/-- A clip that fits is shown if there is room for it in front of the rest of its row, and then
it keeps one of its ends.  How long it is at the cursor, is read without the words that fit
it; without a length of its own it lasts to the end of the output. -/
structure FitsInto (template : Template ℚ) (infos : MediaMap ℚ) (total cursor behind : ℚ)
    (clip : Clip ℚ) (id : String) (timing : Timing ℚ) (shown : Option (Entry ℚ)) : Prop where
  resolved : Timing.ofClip template.scope clip.withoutFit (infos.lookup id) cursor = .ok timing
  isSome_iff : shown.isSome ↔ Scalar.tolerance ≤ total - cursor - behind
  keepsEnd : ∀ entry ∈ shown, KeepsEnd clip id cursor (total - cursor - behind)
    (timing.duration.getD (total - cursor)) timing entry

/-- A clip that fits is only left out where there is no room for it. -/
theorem isSome_fitted_iff {length : ℚ} {endFits : Bool} :
    (fitted total cursor behind length endFits timing).isSome ↔
      Scalar.tolerance ≤ total - cursor - behind := by
  rw [fitted_rat]
  split
  · rename_i noRoom
    simpa using noRoom
  · rename_i hasRoom
    rw [not_lt] at hasRoom
    split <;> simp [hasRoom]

/-- What is left of a clip that is fitted keeps one of its ends. -/
theorem keepsEnd_of_fitted {length duration trimStart : ℚ}
    (kept : fitted total cursor behind length clip.trim.ending.isFit timing =
      some (duration, trimStart)) :
    KeepsEnd clip id cursor (total - cursor - behind) length timing
      ⟨id, cursor, duration, trimStart, timing.speed, zIndex⟩ := by
  have tolerance_pos : (0 : ℚ) < Scalar.tolerance := Scalar.tolerance_rat_pos
  rw [fitted_rat] at kept
  split at kept
  · cases kept
  · split at kept
    · rename_i shorter
      cases kept
      constructor
      · rfl
      · rfl
      · rfl
      · exact .inr ⟨rfl, shorter⟩
      · intro endFits
        exact if_pos endFits
      · -- what is given up in front, and what is left, make up the whole length
        intro startFits
        simp only [Entry.sourceEnd, startFits, Bool.false_eq_true, if_false]
        ring
    · rename_i spare
      cases kept
      constructor
      · rfl
      · rfl
      · rfl
      · exact .inl ⟨rfl, by linarith⟩
      · intro _
        rfl
      · intro _
        rfl

/-- A walk fits a clip into the room that the rest of its row leaves, and goes on behind it. -/
theorem exists_fitsInto (clipId : id ≠ Layer.padding) (found : template.clip id = .ok clip)
    (isFit : clip.isFit = true)
    (measured : counted template infos everyFit cursor rest = .ok behind) (nonneg : 0 ≤ behind)
    (walked : entriesFrom template infos everyFit total zIndex cursor (id :: rest) =
      .ok entries) :
    ∃ timing shown closing, entries = shown.toList ++ closing ∧
      FitsInto template infos total cursor behind clip id timing shown ∧
      entriesFrom template infos everyFit total zIndex (endFrom cursor shown.toList) rest =
        .ok closing := by
  rcases entriesFrom_cons_cases walked with
    ⟨pad, _⟩ | ⟨_, clip', timing, found', resolved, walk⟩
  · exact absurd pad clipId
  · cases found.symm.trans found'
    have plain := Timing.ofClip_withoutFit resolved
    rw [played_eq_of_isFit isFit measured nonneg] at walk
    simp only [Except.ok.injEq] at walk
    rcases walk with ⟨leftOut, onward⟩ | ⟨length, start, later, plays, onward, rfl⟩
    · have noRoom := isSome_fitted_iff.not.mp (Option.not_isSome_iff_eq_none.mpr leftOut)
      exact ⟨timing, none, entries, rfl, ⟨plain, by simpa using noRoom, by simp⟩, onward⟩
    · have hasRoom := isSome_fitted_iff.mp (Option.isSome_of_eq_some plays)
      refine ⟨timing, some _, later, rfl, ⟨plain, by simpa using hasRoom, ?_⟩, onward⟩
      rintro _ ⟨⟩
      exact keepsEnd_of_fitted plays

/-! ## Layers -/

/-- The place of a clip that fits in the walk of a layer: where the cursor is when the walk comes
by it, the entries in front of it and behind it, and what it shows itself. -/
structure FitPlace (template : Template ℚ) (infos : MediaMap ℚ) (everyFit : Bool) (total : ℚ)
    (zIndex : Int) (start : ℚ) (before : List String) (id : String) (after : List String)
    (clip : Clip ℚ) (row : List (Entry ℚ)) where
  cursor : ℚ
  opening : List (Entry ℚ)
  shown : Option (Entry ℚ)
  closing : List (Entry ℚ)
  timing : Timing ℚ
  /-- What the rest of the layer counts for from the cursor on. -/
  behind : ℚ
  row_eq : row = opening ++ (shown.toList ++ closing)
  walks : Walks template infos everyFit total zIndex (id :: after) start before cursor opening
  measured : counted template infos everyFit cursor after = .ok behind
  fitsInto : FitsInto template infos total cursor behind clip id timing shown
  onward : entriesFrom template infos everyFit total zIndex (endFrom cursor shown.toList) after =
    .ok closing

/-- If all clips fit, every layer has been measured to end no earlier than the output. -/
theorem Resolution.endsLate_of_mem {timeline : Timeline ℚ}
    (resolution : Resolution template infos timeline) (mode : resolution.everyFit = true)
    {layer : Layer} (member : (start, layer) ∈ layers resolution.starts) :
    EndsLate template infos timeline.total start layer.clips := by
  obtain ⟨layerEnd, endMem, ended⟩ := Result.exists_value_of_mapM resolution.ends_eq member
  obtain ⟨length, measured, same⟩ := Result.bind_eq_ok_iff.mp ended
  cases Result.pure_eq_ok_iff.mp same
  have total_eq := resolution.total_eq
  rw [mode] at measured total_eq
  exact ⟨start, length, le_rfl, measured, (least_of_totalOf total_eq).2 _ endMem⟩

/-- In a layer of a resolved timeline that goes forward, every clip that fits keeps one of its
ends, wherever it is in the layer.  A layer goes forward where no length that is given is
negative. -/
theorem exists_fitPlace_rows {timeline : Timeline ℚ}
    (resolved : template.resolveTimeline infos = .ok timeline) :
    ∃ starts everyFit rows, Timeline.starts template = .ok starts ∧
      allFit template ((layers starts).flatMap fun (_, layer) => layer.clips) = .ok everyFit ∧
      IsStack rows.flatten timeline.entries ∧
      List.Forall₂ (fun placed row =>
        GoesForward template infos placed.2.clips →
        ∀ before id after, placed.2.clips = before ++ id :: after → id ≠ Layer.padding →
          ∀ clip, template.clip id = .ok clip → clip.isFit = true →
            Nonempty (FitPlace template infos everyFit timeline.total placed.2.zIndex placed.1
              before id after clip row))
        (layers starts) rows := by
  obtain ⟨resolution⟩ := exists_resolution resolved
  refine ⟨resolution.starts, resolution.everyFit, resolution.rows, resolution.starts_eq,
    resolution.everyFit_eq, resolution.stack_and_rows ?_⟩
  intro start layer row placed walked forward before id after clips_eq clipId clip found isFit
  have bounded := resolution.isBounded_of_mem placed
  have late := fun mode => resolution.endsLate_of_mem mode placed
  dsimp only at forward clips_eq
  rw [clips_eq] at forward bounded late walked
  obtain ⟨cursor, opening, goesOn, rfl, walks, onward⟩ := exists_walks_of_entriesFrom walked
  obtain ⟨behind, measured⟩ :=
    exists_counted_behind walks forward bounded late onward clipId found isFit
  have nonneg : 0 ≤ behind := forward.of_append.tail.counted_nonneg measured
  obtain ⟨timing, shown, closing, rfl, fitsInto, onward⟩ :=
    exists_fitsInto clipId found isFit measured nonneg onward
  exact ⟨⟨cursor, opening, shown, closing, timing, behind, rfl, walks, measured, fitsInto,
    onward⟩⟩

/-! ## A film that gives up its beginning -/

/-- A film of six seconds that plays twice as fast and has the word at its start. -/
def film : Clip ℚ :=
  { Clip.plain "film" "film.mp4" with
    speed := some "200%", trim := ⟨some (.text "fit"), none, none, none⟩ }

/-- The film in front of a talk of seven seconds and beside a clip of eight. -/
def filmTemplate : Template ℚ where
  clips := [film, .plain "talk" "talk.mp4", .plain "long" "long.mp4"]
  size := ⟨.null, .null, none, "black"⟩
  timeline := [(.number 0, [⟨["film", "talk"], 0⟩, ⟨["long"], 1⟩])]
  preview := .null
  keypoints := []
  directory := ⟨"/", []⟩

/-- The lengths of its sources. -/
def filmInfos : MediaMap ℚ :=
  [("film", ⟨0, 0, 30, some 6, none, false, .video⟩),
    ("talk", ⟨0, 0, 30, some 7, none, false, .video⟩),
    ("long", ⟨0, 0, 30, some 8, none, false, .video⟩)]

theorem filmTemplate_goesForward : GoesForward filmTemplate filmInfos ["film", "talk"] := by
  rintro id member clipId ⟨clip, length, found, reverses⟩
  simp only [List.mem_cons, List.not_mem_nil, or_false] at member
  rcases member with rfl | rfl <;> cases found <;> cases reverses.given

/-- Without the word the film plays for three seconds. -/
theorem ofClip_film :
    Timing.ofClip filmTemplate.scope film.withoutFit (filmInfos.lookup "film") 0 =
      .ok ⟨some 3, 0, 2⟩ := by
  with_unfolding_all rfl

/-- In the one second that the talk leaves of the output, the film shows its last two. -/
theorem filmTemplate_keeps_end :
    ∃ timeline row other entry, filmTemplate.resolveTimeline filmInfos = .ok timeline ∧
      GoesForward filmTemplate filmInfos ["film", "talk"] ∧
      IsStack (row ++ other) timeline.entries ∧ entry ∈ row ∧ entry.clipId = "film" ∧
      entry.startAt = 0 ∧ entry.duration = 1 ∧ entry.sourceEnd = 6 := by
  have evaluated : (filmTemplate.resolveTimeline filmInfos).toOption.map Timeline.total =
      some 8 := by
    decide +kernel
  obtain ⟨timeline, resolved, total_eq⟩ := exists_of_map_total evaluated
  obtain ⟨starts, everyFit, rows, starts_eq, everyFit_eq, isStack, places⟩ :=
    exists_fitPlace_rows resolved
  cases starts_eq
  cases everyFit_eq
  obtain ⟨row, others, first, _, rfl⟩ := List.forall₂_cons_left_iff.mp places
  obtain ⟨_, _, shown, closing, timing, behind, row_eq, walks, measured, fitsInto, _⟩ :=
    first filmTemplate_goesForward [] "film" ["talk"] rfl (by decide) _ rfl rfl
  cases walks
  have counts : counted filmTemplate filmInfos false 0 ["talk"] = .ok 7 :=
    Result.toOption_eq_some_iff.mp (by decide +kernel)
  cases counts.symm.trans measured
  obtain ⟨plain, isSome_iff, keepsEnd⟩ := fitsInto
  cases ofClip_film.symm.trans plain
  rw [total_eq] at isSome_iff keepsEnd
  obtain ⟨entry, rfl⟩ := Option.isSome_iff_exists.mp (isSome_iff.mpr (by decide +kernel))
  have kept := keepsEnd entry rfl
  refine ⟨timeline, row, others.flatten, entry, resolved, filmTemplate_goesForward, isStack, ?_,
    kept.clipId, kept.startAt, ?_, ?_⟩
  · rw [row_eq]
    simp
  · rcases kept.duration with ⟨_, fits⟩ | ⟨shortened, _⟩
    · norm_num at fits
    · rw [shortened]
      norm_num
  · rw [kept.sourceEnd (by decide +kernel)]
    norm_num

end Timeline

end Montage
