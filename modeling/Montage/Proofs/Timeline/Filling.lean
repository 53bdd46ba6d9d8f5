import Montage.Proofs.Timeline.Bounds
import Montage.Proofs.Timeline.Cut
import Montage.Proofs.Timeline.Walk

/-!
# Clips that fill the output

A clip without a length counts for nothing when its layer is measured, but where it is played
and does not fit it fills the output from the cursor to the end.  A clip of known length that
comes behind it in the layer is played all the same, from the end of the output on.  Where no
such clip has been played, the walk keeps room for the rest of the layer, and a clip of known
length plays within the output.
-/

namespace Montage.Timeline

variable {template : Template ℚ} {infos : MediaMap ℚ} {everyFit : Bool} {zIndex : Int}
variable {position total cursor length start : ℚ} {id : String}
variable {before after rest row : List String} {clip : Clip ℚ} {timing : Timing ℚ}
variable {opening entries : List (Entry ℚ)}

/-- A clip of a template does not fit and lacks a length, so that it fills the output where it
is played. -/
def Fills (template : Template ℚ) (infos : MediaMap ℚ) (id : String) : Prop :=
  ∃ clip, template.clip id = .ok clip ∧ clip.isFit = false ∧
    Timing.LacksLength clip (infos.lookup id)

/-- A clip that fills the output ends with it. -/
theorem endAt_eq_total_of_fills
    (walked : entriesFrom template infos everyFit total zIndex position row = .ok entries) :
    ∀ entry ∈ entries, Fills template infos entry.clipId → entry.endAt = total := by
  rintro entry member ⟨clip, found, unfit, lacks⟩
  obtain ⟨clip', timing, rest, found', resolved, plays, _⟩ :=
    exists_played_of_mem_row walked entry member
  cases found.symm.trans found'
  rcases played_cases plays with ⟨_, length_eq, _⟩ | ⟨isFit, _⟩
  · rw [Entry.endAt, length_eq, lacks.duration_eq_none resolved, Option.getD_none]
    ring
  · rw [unfit] at isFit
    contradiction

/-! ## Room along a walk -/

/-- Room is never behind the end of the output in a row that goes forward. -/
theorem HasRoom.le_total_of_goesForward (room : HasRoom template infos total position row)
    (forward : GoesForward template infos row) : position ≤ total := by
  obtain ⟨_, length, _, measured, fits⟩ := room
  have nonneg : 0 ≤ length := forward.counted_nonneg measured
  linarith

/-- A clip that is played leaves room for the row behind it, unless it fills the output. -/
theorem HasRoom.after_played (room : HasRoom template infos total position (id :: rest))
    (clipId : id ≠ Layer.padding) (forward : ¬IsReversed template infos id)
    (unfilled : ¬Fills template infos id) (found : template.clip id = .ok clip)
    (resolved : Timing.ofClip template.scope clip (infos.lookup id) position = .ok timing)
    (plays : played template infos false total position clip timing rest =
      .ok (some (length, start))) :
    HasRoom template infos total (position + length) rest := by
  rcases played_cases plays with ⟨unfit, rfl, _⟩ | ⟨_, behind, measured, kept⟩
  · cases known : timing.duration with
    | none => exact absurd ⟨clip, found, unfit, Timing.lacksLength_of_ofClip resolved known⟩ unfilled
    | some duration =>
        have behind := room.after_clip clipId found resolved
        rwa [weight_of_unfit unfit, known, Option.getD_some] at behind
  · have nonneg : 0 ≤ length := length_nonneg forward found resolved plays
    have fits : position + length + behind ≤ total :=
      (fitted_cases kept).elim (fun exactly => exactly.1.le) fun spare => spare.2
    exact ⟨position, behind, by linarith, measured, fits⟩

/-- As long as nothing fills the output, a walk keeps room for the rest of its row. -/
theorem Walks.hasRoom
    (walks : Walks template infos false total zIndex rest position before cursor opening)
    (forward : GoesForward template infos (before ++ rest))
    (unfilled : ∀ entry ∈ opening, ¬Fills template infos entry.clipId)
    (room : HasRoom template infos total position (before ++ rest)) :
    HasRoom template infos total cursor rest := by
  induction walks with
  | nil => exact room
  | padding measured _ ih =>
      exact ih forward.tail unfilled (room.after_padding measured)
  | leftOut clipId found resolved leftOut _ ih =>
      have behind := room.after_clip clipId found resolved
      rw [weight_of_leftOut leftOut, add_zero] at behind
      exact ih forward.tail unfilled behind
  | played clipId found resolved plays _ ih =>
      obtain ⟨fills, unfilledRest⟩ := List.forall_mem_cons.mp unfilled
      have here := forward _ List.mem_cons_self clipId
      exact ih forward.tail unfilledRest
        (room.after_played clipId here fills found resolved plays)

/-! ## Layers -/

/-- How a clip of known length plays behind what has been played of its layer.  Where nothing
fills the output it plays within it, and otherwise from its end on, up to a tolerance. -/
structure KeepsTime (template : Template ℚ) (infos : MediaMap ℚ) (total : ℚ)
    (opening : List (Entry ℚ)) (entry : Entry ℚ) : Prop where
  resolved : ∃ clip, template.clip entry.clipId = .ok clip ∧
    Timing.ofClip template.scope clip (infos.lookup entry.clipId) entry.startAt =
      .ok ⟨some entry.duration, entry.trimStart, entry.speed⟩
  within : (∀ earlier ∈ opening, ¬Fills template infos earlier.clipId) →
    entry.endAt ≤ total ∧ (0 < entry.duration → entry.startAt < total)
  behind : ∀ earlier ∈ opening, Fills template infos earlier.clipId →
    earlier.endAt = total ∧ total < entry.startAt + Scalar.tolerance

/-- A clip of known length that does not fit is played as it is. -/
theorem exists_entry_of_known (clipId : id ≠ Layer.padding) (found : template.clip id = .ok clip)
    (unfit : clip.isFit = false) (known : ¬Timing.LacksLength clip (infos.lookup id))
    (walked : entriesFrom template infos everyFit total zIndex cursor (id :: rest) =
      .ok entries) :
    ∃ duration trimStart speed closing,
      entries = ⟨id, cursor, duration, trimStart, speed, zIndex⟩ :: closing ∧
      Timing.ofClip template.scope clip (infos.lookup id) cursor =
        .ok ⟨some duration, trimStart, speed⟩ := by
  rcases entriesFrom_cons_cases walked with
    ⟨pad, _⟩ | ⟨_, clip', ⟨lasts, trimStart, speed⟩, found', resolved, walk⟩
  · exact absurd pad clipId
  · cases found.symm.trans found'
    cases lasts with
    | none => exact absurd (Timing.lacksLength_of_ofClip resolved rfl) known
    | some duration =>
        rcases walk with ⟨leftOut, _⟩ | ⟨length, start, closing, plays, _, rfl⟩
        · rcases leftOut_cases leftOut with isFit | ⟨⟨⟩⟩
          rw [unfit] at isFit
          contradiction
        · obtain ⟨rfl, rfl⟩ := eq_of_played_unfit unfit rfl plays
          exact ⟨length, _, speed, closing, rfl, resolved⟩

/-- Where there is room for a clip of known length, it plays within the output. -/
theorem HasRoom.endAt_le {duration trimStart speed : ℚ}
    (room : HasRoom template infos total cursor (id :: rest)) (clipId : id ≠ Layer.padding)
    (found : template.clip id = .ok clip) (unfit : clip.isFit = false)
    (resolved : Timing.ofClip template.scope clip (infos.lookup id) cursor =
      .ok ⟨some duration, trimStart, speed⟩)
    (forward : GoesForward template infos rest) : cursor + duration ≤ total := by
  have behind := room.after_clip clipId found resolved
  rw [weight_of_unfit unfit, Option.getD_some] at behind
  exact behind.le_total_of_goesForward forward

/-- A walk plays every clip of known length, and keeps its time. -/
theorem exists_keepsTime (forward : GoesForward template infos (before ++ id :: after))
    (clipId : id ≠ Layer.padding) (found : template.clip id = .ok clip)
    (unfit : clip.isFit = false) (known : ¬Timing.LacksLength clip (infos.lookup id))
    (room : HasRoom template infos total position (before ++ id :: after))
    (walked : entriesFrom template infos false total zIndex position (before ++ id :: after) =
      .ok entries) :
    ∃ opening entry closing, entries = opening ++ entry :: closing ∧ entry.clipId = id ∧
      Walks template infos false total zIndex (id :: after) position before entry.startAt
        opening ∧
      KeepsTime template infos total opening entry := by
  have bounded : IsBounded template infos false total (before ++ id :: after) := by
    obtain ⟨measuredAt, length, order, measured, fits⟩ := room
    exact ⟨measuredAt, length, measured, by linarith⟩
  have follows := (pairwise_follows_of_entriesFrom bounded forward walked).1
  have ends := endAt_eq_total_of_fills walked
  obtain ⟨cursor, opening, goesOn, rfl, walks, onward⟩ := exists_walks_of_entriesFrom walked
  obtain ⟨duration, trimStart, speed, closing, rfl, resolved⟩ :=
    exists_entry_of_known clipId found unfit known onward
  refine ⟨opening, _, closing, rfl, rfl, walks, ?_⟩
  constructor
  · exact ⟨clip, found, resolved⟩
  · intro unfilled
    have within : cursor + duration ≤ total :=
      (walks.hasRoom forward unfilled room).endAt_le clipId found unfit resolved
        forward.of_append.tail
    constructor
    · exact within
    · intro positive
      linarith
  · intro earlier member fills
    have filled := ends earlier (List.mem_append_left _ member) fills
    have late : Follows earlier ⟨id, cursor, duration, trimStart, speed, zIndex⟩ :=
      (List.pairwise_append.mp follows).2.2 earlier member _ List.mem_cons_self
    rw [Follows, filled] at late
    exact ⟨filled, late⟩

/-- Unless all clips fit, every clip of known length in a resolved timeline is played, and keeps
its time in a layer that goes forward. -/
theorem keepsTime_rows {timeline : Timeline ℚ} (unfit : HasUnfitClip template)
    (resolved : template.resolveTimeline infos = .ok timeline) :
    ∃ starts rows, Timeline.starts template = .ok starts ∧
      IsStack rows.flatten timeline.entries ∧
      List.Forall₂ (fun placed row =>
        GoesForward template infos placed.2.clips →
        ∀ before id after, placed.2.clips = before ++ id :: after → id ≠ Layer.padding →
          ∀ clip, template.clip id = .ok clip → clip.isFit = false →
            ¬Timing.LacksLength clip (infos.lookup id) →
            ∃ opening entry closing, row = opening ++ entry :: closing ∧ entry.clipId = id ∧
              Walks template infos false timeline.total placed.2.zIndex (id :: after) placed.1
                before entry.startAt opening ∧
              KeepsTime template infos timeline.total opening entry)
        (layers starts) rows := by
  obtain ⟨resolution⟩ := exists_resolution resolved
  have mode := resolution.everyFit_eq_false_iff.mpr unfit
  refine ⟨resolution.starts, resolution.rows, resolution.starts_eq,
    resolution.stack_and_rows ?_⟩
  intro start layer row placed walked forward before id after clips_eq clipId clip found unfit
    known
  obtain ⟨length, measured, fits⟩ := resolution.measured_of_mem mode placed
  dsimp only at forward clips_eq
  rw [mode] at walked
  rw [clips_eq] at forward measured walked
  exact exists_keepsTime forward clipId found unfit known ⟨start, length, le_rfl, measured, fits⟩
    walked

/-! ## A clip behind a still image -/

/-- A template with a title of five seconds, a still image, and two more seconds behind it,
beside a clip of ten. -/
def codaSource : Value ℚ :=
  .map
    [(.text "clips", .list
      [.map [(.text "id", .text "title"), (.text "file", .text "title.mp4")],
        .map [(.text "id", .text "still"), (.text "file", .text "still.png")],
        .map [(.text "id", .text "coda"), (.text "file", .text "coda.mp4")],
        .map [(.text "id", .text "long"), (.text "file", .text "long.mp4")]]),
      (.text "timeline", .map [(.number 0, .list
        [.list [.text "title", .text "still", .text "coda"], .list [.text "long"]])])]

/-- The template that is read from it. -/
def codaTemplate : Template ℚ where
  clips :=
    [.plain "title" "/title.mp4", .plain "still" "/still.png", .plain "coda" "/coda.mp4",
      .plain "long" "/long.mp4"]
  size := ⟨.text "100%", .text "100%", some "title", "black"⟩
  timeline := [(.number 0, [⟨["title", "still", "coda"], 0⟩, ⟨["long"], 1⟩])]
  preview := .text "00:00:00"
  keypoints := []
  directory := ⟨"/", []⟩

/-- The lengths of its sources, of which the still image has none. -/
def codaInfos : MediaMap ℚ :=
  [("title", ⟨0, 0, 30, some 5, none, false, .video⟩),
    ("still", ⟨2, 2, 60, none, none, false, .image⟩),
    ("coda", ⟨0, 0, 30, some 2, none, false, .video⟩),
    ("long", ⟨0, 0, 30, some 10, none, false, .video⟩)]

theorem codaTemplate_hasUnfitClip : HasUnfitClip codaTemplate :=
  ⟨_, List.mem_cons_self, ⟨["long"], 1⟩, by simp, "long", by simp, by simp [Layer.padding], _, rfl,
    rfl⟩

theorem codaTemplate_goesForward :
    GoesForward codaTemplate codaInfos ["title", "still", "coda"] := by
  rintro id member clipId ⟨clip, length, found, reverses⟩
  simp only [List.mem_cons, List.not_mem_nil, or_false] at member
  rcases member with rfl | rfl | rfl <;> cases found <;> cases reverses.given

/-- The title plays within the output, because nothing is in front of it. -/
theorem codaTemplate_keepsTime :
    ∃ timeline row other entry, codaTemplate.resolveTimeline codaInfos = .ok timeline ∧
      timeline.total = 10 ∧ GoesForward codaTemplate codaInfos ["title", "still", "coda"] ∧
      IsStack (row ++ other) timeline.entries ∧ entry ∈ row ∧ entry.clipId = "title" ∧
      entry.endAt ≤ 10 := by
  have evaluated : (codaTemplate.resolveTimeline codaInfos).toOption.map Timeline.total =
      some 10 := by
    decide +kernel
  obtain ⟨timeline, resolved, total_eq⟩ := exists_of_map_total evaluated
  obtain ⟨starts, rows, starts_eq, isStack, kept⟩ :=
    keepsTime_rows codaTemplate_hasUnfitClip resolved
  cases starts_eq
  obtain ⟨row, others, first, _, rfl⟩ := List.forall₂_cons_left_iff.mp kept
  have known : ¬Timing.LacksLength (.plain "title" "/title.mp4" : Clip ℚ)
      (codaInfos.lookup "title") := by
    intro lacks
    cases lacks.unmeasured
  obtain ⟨opening, entry, closing, row_eq, clipId, walks, keepsTime⟩ :=
    first codaTemplate_goesForward [] "title" ["still", "coda"] rfl (by decide) _ rfl rfl known
  have first : opening = [] := by
    generalize entry.startAt = cursor at walks
    cases walks
    rfl
  have within := (keepsTime.within (by simp [first])).1
  rw [total_eq] at within
  refine ⟨timeline, row, others.flatten, entry, resolved, total_eq, codaTemplate_goesForward,
    isStack, ?_, clipId, within⟩
  rw [row_eq]
  simp

/-- In a template that is read and resolved, a clip of two seconds behind a still image begins
where the output ends, and ends two seconds later. -/
theorem codaTemplate_plays_behind :
    Template.read ⟨"/", []⟩ codaSource = .ok codaTemplate ∧ HasUnfitClip codaTemplate ∧
      Fills codaTemplate codaInfos "still" ∧
      ∃ timeline, codaTemplate.resolveTimeline codaInfos = .ok timeline ∧ timeline.total = 10 ∧
        timeline.entries =
          [⟨"title", 0, 5, 0, 1, 0⟩, ⟨"still", 5, 5, 0, 1, 0⟩, ⟨"coda", 10, 2, 0, 1, 0⟩,
            ⟨"long", 0, 10, 0, 1, 1⟩] := by
  have evaluated : (codaTemplate.resolveTimeline codaInfos).toOption.map Timeline.total =
      some 10 := by
    decide +kernel
  have first : entriesFrom codaTemplate codaInfos false 10 0 0 ["title", "still", "coda"] =
      .ok [⟨"title", 0, 5, 0, 1, 0⟩, ⟨"still", 5, 5, 0, 1, 0⟩, ⟨"coda", 10, 2, 0, 1, 0⟩] :=
    Result.toOption_eq_some_iff.mp (by decide +kernel)
  have second : entriesFrom codaTemplate codaInfos false 10 1 0 ["long"] =
      .ok [⟨"long", 0, 10, 0, 1, 1⟩] :=
    Result.toOption_eq_some_iff.mp (by decide +kernel)
  refine ⟨rfl, codaTemplate_hasUnfitClip, ⟨_, rfl, rfl, rfl, rfl, rfl⟩, ?_⟩
  exact exists_of_rows evaluated rfl rfl (.cons first (.cons second .nil)) (by decide +kernel)

end Montage.Timeline
