import Montage.Proofs.Machine.Saving
import Montage.Proofs.TextImage.Wrap
import Montage.Render.TextAsset

/-!
# What is drawn of a template

Behind a run that has turned every text into a picture there is one drawing for each clip of a
text, in the order of the clips.  The drawings say everything about the run that matters to the
clips: which files have been saved, what is known about the pictures, and which clips show them.
-/

namespace Montage.TextAsset

variable {α : Type} [Scalar α]

/-- A clip of a text with the picture that its text is set to, and the calls that draw it. -/
structure Drawing (α : Type) where
  clip : Clip α
  content : String
  font : Font α
  image : TextImage α
  calls : List (DrawCall α)
  /-- When the picture has been saved, if that is known. -/
  savedAt : Option α
  info : MediaInfo α

namespace Drawing

/-- The file that a picture is saved to. -/
def file (output : Path) (drawing : Drawing α) : Path :=
  path output drawing.clip.id

/-- What the file of a picture holds. -/
def entry (drawing : Drawing α) : FileEntry α :=
  { FileEntry.blank with
    changedAt := drawing.savedAt
    media := some (.picture drawing.image.width drawing.image.height)
    drawing := some drawing.calls }

/-- A picture shows the text of its clip, as wide as its layout asks for. -/
structure IsSet (painter : Painter α) (canvas : Extent) (drawing : Drawing α) : Prop where
  source_eq : drawing.clip.source = .text drawing.content drawing.font
  set_eq : ∃ (usable : Path → Bool) (given : Option ℤ),
    width canvas drawing.clip.layout.width.value = .ok given ∧
      TextImage.setBy painter usable drawing.content drawing.font given = .ok drawing.image
  calls_eq : drawing.image.calls drawing.font = drawing.calls.map .ok
  info_eq : MediaInfo.image (Scalar.ofInt drawing.image.width)
    (Scalar.ofInt drawing.image.height) = .ok drawing.info

end Drawing

/-- The drawings of clips: one for each clip of a text, in their order. -/
structure Draws (painter : Painter α) (canvas : Extent) (clips : List (Clip α))
    (drawings : List (Drawing α)) : Prop where
  clips_eq : drawings.map Drawing.clip = clips.filter fun clip => !clip.isMedia
  set : ∀ drawing ∈ drawings, drawing.IsSet painter canvas

/-- What is known about the pictures. -/
def known (drawings : List (Drawing α)) : MediaMap α :=
  drawings.map fun drawing => (drawing.clip.id, drawing.info)

/-- The files behind drawings that are saved one after another. -/
def saved (output : Path) (files : Files α) (drawings : List (Drawing α)) : Files α :=
  drawings.foldl (fun files drawing => files.replace (drawing.file output) drawing.entry) files

/-- A clip behind the run: that of a text shows its file, and any other clip stays. -/
def shown (output : Path) (clip : Clip α) : Clip α :=
  match clip.source with
  | .text content font =>
      { clip with source := .drawn (path output clip.id).resolve.toText content font }
  | _ => clip

/-! ## The text in a picture -/

/-- The text that a call draws, if it draws one. -/
def textOf? : DrawCall α → Option String
  | .text _ _ content _ _ _ _ _ => some content
  | .rectangle _ _ _ _ => none

/-- The texts that are drawn in a file. -/
def textsIn (entry : FileEntry α) : List String :=
  (entry.drawing.getD []).filterMap textOf?

/-- A file holds a picture of a text: one text is drawn in it, with the words of that text. -/
def Shows (entry : FileEntry α) (text : String) : Prop :=
  ∃ content, textsIn entry = [content] ∧ TextImage.wordsOf content = TextImage.wordsOf text

variable {painter : Painter α} {canvas : Extent} {output : Path} {quiet : Bool}
  {session behind : Session α}

/-- Setting a text may break its lines, which leaves its words. -/
theorem wordsOf_of_setBy {usable : Path → Bool} {content : String} {font : Font α}
    {given : Option ℤ} {image : TextImage α}
    (set_eq : TextImage.setBy painter usable content font given = .ok image) :
    TextImage.wordsOf image.content = TextImage.wordsOf content := by
  simp only [TextImage.setBy, Result.bind_eq_ok_iff, Result.pure_eq_ok_iff] at set_eq
  obtain ⟨_, _, _, _, _, _, _, _, _, _, _, _, rfl⟩ := set_eq
  exact TextImage.wordsOf_wrapTo _ _ _

omit [Scalar α] in
theorem textOf?_of_textCall {image : TextImage α} {font : Font α} {call : DrawCall α}
    (drawn : image.textCall font = .ok call) : textOf? call = some image.content := by
  simp only [TextImage.textCall, Result.bind_eq_ok_iff, Result.pure_eq_ok_iff] at drawn
  obtain ⟨_, _, _, _, rfl⟩ := drawn
  rfl

theorem textOf?_of_backgroundCall {image : TextImage α} {font : Font α} {call : DrawCall α}
    (filled : image.backgroundCall font = some (.ok call)) : textOf? call = none := by
  rw [TextImage.backgroundCall] at filled
  split at filled
  · obtain ⟨_, _, finished⟩ := Result.bind_eq_ok_iff.mp (Option.some_inj.mp filled)
    cases finished
    rfl
  · cases filled

/-- Among the calls of a picture one draws its text, and none draws another one. -/
theorem filterMap_textOf? {image : TextImage α} {font : Font α} {calls : List (DrawCall α)}
    (calls_eq : image.calls font = calls.map .ok) :
    calls.filterMap textOf? = [image.content] := by
  rw [TextImage.calls] at calls_eq
  obtain ⟨before, behind, rfl, before_eq, behind_eq⟩ := List.map_eq_append_iff.mp calls_eq.symm
  obtain ⟨call, rfl, drawn⟩ := List.map_eq_singleton_iff.mp behind_eq
  have silent : before.filterMap textOf? = [] := by
    cases filled : image.backgroundCall font with
    | none =>
        rw [filled] at before_eq
        rw [List.map_eq_nil_iff.mp before_eq]
        rfl
    | some background =>
        rw [filled] at before_eq
        obtain ⟨rectangle, rfl, rfl⟩ := List.map_eq_singleton_iff.mp before_eq
        rw [List.filterMap_cons_none (textOf?_of_backgroundCall filled), List.filterMap_nil]
  rw [List.filterMap_append, silent, List.filterMap_cons_some (textOf?_of_textCall drawn.symm)]
  rfl

/-- The file of a picture shows the text of its clip. -/
theorem Drawing.IsSet.shows {drawing : Drawing α} (isSet : drawing.IsSet painter canvas) :
    Shows drawing.entry drawing.content := by
  obtain ⟨_, _, _, set_eq⟩ := isSet.set_eq
  exact ⟨drawing.image.content, filterMap_textOf? isSet.calls_eq, wordsOf_of_setBy set_eq⟩

/-- Drawings have distinct ids if the clips have. -/
theorem Draws.nodup_ids {clips : List (Clip α)} {drawings : List (Drawing α)}
    (draws : Draws painter canvas clips drawings) (distinct : (clips.map Clip.id).Nodup) :
    (drawings.map fun drawing => drawing.clip.id).Nodup := by
  have ids_eq : drawings.map (fun drawing => drawing.clip.id) =
      (clips.filter fun clip => !clip.isMedia).map Clip.id := by
    rw [← draws.clips_eq, List.map_map]
    rfl
  rw [ids_eq]
  exact distinct.sublist (List.filter_sublist.map Clip.id)

/-! ## A run -/

omit [Scalar α] in
private theorem exists_behind_line {β : Type} {line : String} {rest : Program α β} {value : β}
    (ran : (do
      if !quiet then Program.printLine line
      rest).outcome session = (.ok value, behind)) :
    ∃ output, rest.outcome { session with output } = (.ok value, behind) := by
  cases quiet with
  | true => exact ⟨session.output, ran⟩
  | false => exact ⟨session.output ++ (line ++ "\n"), ran⟩

/-- What a run over a drawing does to a session: its picture is saved at the next time, to a file
that can be reached. -/
structure Saves (output : Path) (session : Session α) (drawing : Drawing α)
    (behind : Session α) : Prop where
  savedAt_eq : drawing.savedAt = session.stamps.head?
  stamps_eq : behind.stamps = session.stamps.tail
  files_eq : behind.files = session.files.replace (drawing.file output) drawing.entry
  reached : behind.reaches (drawing.file output) = true
  continues : session.Continues behind

/-- Painting a text saves its picture, with the next time. -/
theorem exists_set_of_paint {id content : String} {font : Font α} {given : Option ℤ}
    {size : Extent}
    (painted : (paint output id content font given).outcome session = (.ok size, behind)) :
    ∃ (image : TextImage α) (calls : List (DrawCall α)),
      TextImage.setBy session.painter session.files.typefaceLoads content font given =
          .ok image ∧
        image.calls font = calls.map .ok ∧ size = ⟨image.width, image.height⟩ ∧
        behind.files = session.files.replace (path output id)
          { FileEntry.blank with
            changedAt := session.stamps.head?
            media := some (.picture image.width image.height)
            drawing := some calls } ∧
        behind.stamps = session.stamps.tail ∧ behind.reaches (path output id) = true ∧ session.Continues behind := by
  rw [paint, Program.outcome_get_bind] at painted
  obtain ⟨image, _, computed, painted⟩ := Program.outcome_bind_eq_ok_iff.mp painted
  obtain ⟨set_eq, rfl⟩ := Program.outcome_ofResult_eq_ok_iff.mp computed
  obtain ⟨calls, _, drew, painted⟩ := Program.outcome_bind_eq_ok_iff.mp painted
  obtain ⟨calls_eq, rfl⟩ := Program.outcome_draws_eq_ok_iff.mp drew
  obtain ⟨_, _, made, painted⟩ := Program.outcome_bind_eq_ok_iff.mp painted
  cases made
  obtain ⟨_, _, written, finished⟩ := Program.outcome_bind_eq_ok_iff.mp painted
  obtain ⟨reached, rfl⟩ := Program.outcome_save_eq_ok_iff.mp written
  obtain ⟨rfl, rfl⟩ := Program.outcome_pure_eq_ok_iff.mp finished
  exact ⟨image, calls, set_eq, calls_eq, rfl, rfl, rfl, reached,
    ⟨rfl, (session.continues_withFolder (folder output)).folders⟩⟩

/-- Where there is no folder for its picture, painting a text fails behind drawing it, and leaves
the files as they are. -/
theorem exists_outcome_paint_of_unreached {id content : String} {font : Font α}
    {given : Option ℤ} {image : TextImage α} {calls : List (DrawCall α)}
    (set_eq :
      TextImage.setBy session.painter session.files.typefaceLoads content font given = .ok image)
    (calls_eq : image.calls font = calls.map .ok)
    (unreached : (session.withFolder (folder output)).reaches (path output id) = false) :
    ∃ behind, (paint output id content font given).outcome session =
        (.error (.noSuchFile (path output id).toText), behind) ∧
      behind.drawn = session.drawn ++ calls ∧ behind.files = session.files := by
  have computed := Program.outcome_ofResult_eq_ok_iff.mpr
    ⟨set_eq, (rfl : session = session)⟩
  have drew := Program.outcome_draws_eq_ok_iff.mpr
    ⟨calls_eq, (rfl : { session with drawn := session.drawn ++ calls } = _)⟩
  have made : (Program.makeFolder (folder output)).outcome
      { session with drawn := session.drawn ++ calls } =
        (.ok (), { session.withFolder (folder output) with drawn := session.drawn ++ calls }) :=
    rfl
  refine ⟨{ session.withFolder (folder output) with drawn := session.drawn ++ calls }, ?_, rfl,
    rfl⟩
  rw [paint, Program.outcome_get_bind, Program.outcome_bind_of_ok computed,
    Program.outcome_bind_of_ok drew, Program.outcome_bind_of_ok made]
  apply Program.outcome_bind_of_error
  rw [Program.outcome_save]
  exact if_neg (Bool.eq_false_iff.mp unreached)

/-- Converting a clip of a text makes its drawing, and other clips are not touched. -/
theorem convert_cases {clip converted : Clip α} {drawn : MediaMap α}
    (ran : (convert canvas output quiet clip).outcome session = (.ok (converted, drawn), behind)) :
    converted = shown output clip ∧
      ((clip.isMedia = true ∧ drawn = [] ∧ session = behind) ∨
        ∃ drawing : Drawing α, drawing.clip = clip ∧ clip.isMedia = false ∧
          drawing.IsSet session.painter canvas ∧ drawn = [(clip.id, drawing.info)] ∧
          Saves output session drawing behind) := by
  rw [convert] at ran
  split at ran
  next content font isText =>
    obtain ⟨given, _, computed, ran⟩ := Program.outcome_bind_eq_ok_iff.mp ran
    obtain ⟨given_eq, rfl⟩ := Program.outcome_ofResult_eq_ok_iff.mp computed
    obtain ⟨size, between, painted, ran⟩ := Program.outcome_bind_eq_ok_iff.mp ran
    obtain ⟨image, calls, set_eq, calls_eq, rfl, files_eq, stamps_eq, reached, continues⟩ :=
      exists_set_of_paint painted
    obtain ⟨printed, ran⟩ := exists_behind_line ran
    obtain ⟨info, _, computed, ran⟩ := Program.outcome_bind_eq_ok_iff.mp ran
    obtain ⟨info_eq, rfl⟩ := Program.outcome_ofResult_eq_ok_iff.mp computed
    obtain ⟨same, rfl⟩ := Program.outcome_pure_eq_ok_iff.mp ran
    cases same
    refine ⟨?_, .inr ⟨⟨clip, content, font, image, calls, session.stamps.head?, info⟩, rfl, ?_, ?_,
      rfl, ?_⟩⟩
    · rw [shown, isText]
    · rw [Clip.isMedia, isText]
      rfl
    · exact ⟨isText, ⟨_, given, given_eq, set_eq⟩, calls_eq, Result.lift_eq_ok_iff.mp info_eq⟩
    · exact ⟨rfl, stamps_eq, files_eq, reached, ⟨continues.painter_eq, continues.folders⟩⟩
  next noText =>
    obtain ⟨same, rfl⟩ := Program.outcome_pure_eq_ok_iff.mp ran
    cases same
    cases shows : clip.source with
    | text content font => exact absurd shows (noText content font)
    | media file =>
        refine ⟨?_, .inl ⟨?_, rfl, rfl⟩⟩
        · rw [shown, shows]
        · rw [Clip.isMedia, shows]
          rfl
    | drawn file content font =>
        refine ⟨?_, .inl ⟨?_, rfl, rfl⟩⟩
        · rw [shown, shows]
        · rw [Clip.isMedia, shows]
          rfl

/-- What a run over many drawings does to a session: their pictures are saved one after another,
at the times of the session and to files that can be reached. -/
structure SavesAll (output : Path) (session : Session α) (drawings : List (Drawing α))
    (behind : Session α) : Prop where
  savedAt_eq : ∀ (number : ℕ) (drawing : Drawing α), drawings[number]? = some drawing →
    drawing.savedAt = session.stamps[number]?
  files_eq : behind.files = saved output session.files drawings
  reached : ∀ drawing ∈ drawings, behind.reaches (drawing.file output) = true
  continues : session.Continues behind

theorem SavesAll.nil (output : Path) (session : Session α) : SavesAll output session [] session :=
  ⟨by simp, rfl, List.forall_mem_nil _, .refl session⟩

theorem Saves.cons {between : Session α} {drawing : Drawing α} {drawings : List (Drawing α)}
    (first : Saves output session drawing between)
    (others : SavesAll output between drawings behind) :
    SavesAll output session (drawing :: drawings) behind := by
  constructor
  case savedAt_eq =>
    intro number found isFound
    cases number with
    | zero =>
        cases isFound
        rw [first.savedAt_eq, List.head?_eq_getElem?]
    | succ number =>
        rw [others.savedAt_eq number found isFound, first.stamps_eq, List.getElem?_tail]
  case files_eq =>
    rw [others.files_eq, first.files_eq]
    rfl
  case reached =>
    exact List.forall_mem_cons.mpr ⟨others.continues.reaches first.reached, others.reached⟩
  case continues => exact first.continues.trans others.continues

theorem exists_drawings_of_mapM {clips : List (Clip α)} {pairs : List (Clip α × MediaMap α)}
    (ran : (clips.mapM (convert canvas output quiet)).outcome session = (.ok pairs, behind)) :
    ∃ drawings : List (Drawing α), Draws session.painter canvas clips drawings ∧
      pairs.map Prod.fst = clips.map (shown output) ∧
      pairs.flatMap Prod.snd = known drawings ∧ SavesAll output session drawings behind := by
  induction clips generalizing session pairs with
  | nil =>
      cases ran
      exact ⟨[], ⟨rfl, List.forall_mem_nil _⟩, rfl, rfl, .nil output _⟩
  | cons clip clips ih =>
      rw [List.mapM_cons] at ran
      obtain ⟨⟨first, firstDrawn⟩, between, ranFirst, ran⟩ := Program.outcome_bind_eq_ok_iff.mp ran
      obtain ⟨others, _, ranOthers, finished⟩ := Program.outcome_bind_eq_ok_iff.mp ran
      obtain ⟨rfl, rfl⟩ := Program.outcome_pure_eq_ok_iff.mp finished
      obtain ⟨drawings, draws, shown_eq, known_eq, saves⟩ := ih ranOthers
      obtain ⟨rfl, ⟨isMedia, rfl, rfl⟩ | ⟨drawing, rfl, isText, isSet, rfl, savesFirst⟩⟩ :=
        convert_cases ranFirst
      · refine ⟨drawings, ⟨?_, draws.set⟩, ?_, known_eq, saves⟩
        · rw [draws.clips_eq, List.filter_cons_of_neg (by simp [isMedia])]
        · rw [List.map_cons, List.map_cons, shown_eq]
      · rw [savesFirst.continues.painter_eq] at draws
        refine ⟨drawing :: drawings, ⟨?_, List.forall_mem_cons.mpr ⟨isSet, draws.set⟩⟩, ?_, ?_,
          savesFirst.cons saves⟩
        · rw [List.map_cons, draws.clips_eq, List.filter_cons_of_pos (by simp [isText])]
        · rw [List.map_cons, List.map_cons, shown_eq]
        · rw [List.flatMap_cons, known_eq]
          rfl

/-- What a run over a template leaves: a drawing for each clip of a text, in the order of the
clips. -/
theorem exists_drawings {template converted : Template α} {drawn : MediaMap α}
    (ran : (convertAll canvas output quiet template).outcome session =
      (.ok (converted, drawn), behind)) :
    ∃ drawings : List (Drawing α), Draws session.painter canvas template.clips drawings ∧
      converted = { template with clips := template.clips.map (shown output) } ∧
      drawn = known drawings ∧ SavesAll output session drawings behind := by
  obtain ⟨pairs, _, ranAll, finished⟩ := Program.outcome_bind_eq_ok_iff.mp ran
  obtain ⟨same, rfl⟩ := Program.outcome_pure_eq_ok_iff.mp finished
  cases same
  obtain ⟨drawings, draws, shown_eq, known_eq, saves⟩ := exists_drawings_of_mapM ranAll
  exact ⟨drawings, draws, by rw [shown_eq], known_eq, saves⟩

end Montage.TextAsset
