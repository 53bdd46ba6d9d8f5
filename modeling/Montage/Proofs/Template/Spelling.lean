import Montage.Geometry.Placement
import Montage.Proofs.Template.Changes
import Montage.Proofs.Template.Clips

/-!
# Names that are spelled out

Clips are named in a template by any values, and everything behind the reader knows them by
texts.  This file compares a template with the one in which all ids and all references to clips
are spelled out.  The timeline reads references by their texts, so it is the same.  The size and
the layouts look references up as they are, and find nothing under a value that is no text.
-/

namespace Montage

variable {α : Type}

namespace Value

/-- A name is left out or is a text. -/
def IsName : Value α → Prop
  | null | text _ => True
  | _ => False

theorem isText_of_not_isName {value : Value α} (nameless : ¬value.IsName) (expected : String) :
    value.isText expected = false := by
  cases value with
  | null | text _ => exact absurd trivial nameless
  | _ => rfl

variable [Scalar α]

/-- A value by its text; null stays. -/
def spelled : Value α → Value α
  | null => null
  | value => text value.toText

@[simp]
theorem toText_spelled (value : Value α) : value.spelled.toText = value.toText := by
  cases value <;> rfl

/-- What is left out or a text is spelled as it is. -/
theorem IsName.spelled_eq {value : Value α} (isName : value.IsName) : value.spelled = value := by
  cases value with
  | null | text _ => rfl
  | _ => cases isName

end Value

variable [Scalar α]

/-- A layout with the clip that it refers to spelled out. -/
def Layout.spelled (layout : Layout α) : Layout α :=
  { layout with relativeTo := layout.relativeTo.map Value.spelled }

/-- A clip with the clip that its layout refers to spelled out. -/
def Clip.spelled (clip : Clip α) : Clip α :=
  { clip with layout := clip.layout.spelled }

namespace Template

theorem layout_modifyAt (owner : String) (value : Value α) :
    layout owner (value.modifyAt "relative_to" Value.spelled) =
      Layout.spelled <$> layout owner value := by
  have others {other : String} (differs : other ≠ "relative_to")
      (entries : List (Value α × Value α)) :
      Value.lookup? other (Value.modifyEntries "relative_to" Value.spelled entries) =
        Value.lookup? other entries :=
    Value.lookup?_modifyEntries_of_ne differs
  simp only [layout, fields_modifyAt, map_bind, bind_map_left, Layout.spelled, map_pure,
    Value.lookup?_modifyEntries_self, others (by decide : "x" ≠ "relative_to"),
    others (by decide : "y" ≠ "relative_to"), others (by decide : "width" ≠ "relative_to"),
    others (by decide : "height" ≠ "relative_to")]

/-- The value of a clip with its id and the clip that it refers to spelled out. -/
def spelledClip (value : Value α) : Value α :=
  (value.modifyAt "id" Value.spelled).modifyAt "layout"
    (Value.modifyAt "relative_to" Value.spelled)

/-- The id of a clip counts as given also when it is spelled out. -/
def IdCounts (value : Value α) : Prop :=
  (value.get "id").spelled.isSet = (value.get "id").isSet

theorem clipId_spelledClip {value : Value α} (counts : IdCounts value) (index : ℕ) :
    clipId index (spelledClip value) = clipId index value := by
  have id_eq : (spelledClip value).get "id" = (value.get "id").spelled := by
    rw [spelledClip, Value.get_modifyAt_of_ne _ (by decide), Value.get_modifyAt_self _ rfl]
  simp only [clipId, id_eq, Value.toText_spelled]
  rw [counts]

theorem readClip_spelledClip (directory : Path) (index : ℕ) {value : Value α}
    (counts : IdCounts value) :
    readClip directory index (spelledClip value) =
      Clip.spelled <$> readClip directory index value := by
  cases value with
  | map entries =>
      have id_eq := clipId_spelledClip counts index
      have other_eq {key : String} (differs : key ≠ "id") (differs' : key ≠ "layout") :
          (spelledClip (.map entries)).get key = (Value.map entries).get key := by
        rw [spelledClip, Value.get_modifyAt_of_ne _ differs', Value.get_modifyAt_of_ne _ differs]
      have layout_eq : (spelledClip (.map entries)).get "layout" =
          ((Value.map entries).get "layout").modifyAt "relative_to" Value.spelled := by
        rw [spelledClip, Value.get_modifyAt_self _ rfl, Value.get_modifyAt_of_ne _ (by decide)]
      have fields_eq (owner : String) :
          fields clipFields owner (spelledClip (.map entries)) =
            (Value.modifyEntries "layout" (Value.modifyAt "relative_to" Value.spelled) ∘
              Value.modifyEntries "id" Value.spelled) <$>
                fields clipFields owner (.map entries) := by
        rw [spelledClip, fields_modifyAt, fields_modifyAt, Functor.map_map]
        rfl
      obtain ⟨changed, changed_eq⟩ : ∃ changed, spelledClip (.map entries) = .map changed :=
        ⟨_, rfl⟩
      simp only [changed_eq] at id_eq other_eq layout_eq fields_eq ⊢
      rw [readClip, readClip]
      simp (disch := decide) only [id_eq, fields_eq, layout_eq, other_eq, layout_modifyAt,
        bind_map_left]
      -- what is read is the same up to the last step, which makes the clip
      simp only [map_bind, apply_ite (Functor.map (Clip.spelled (α := α))), map_pure]
      rfl
  | _ => rfl

/-! ## Templates -/

/-- The ids of all clips count as given also when they are spelled out. -/
def IdsCount (value : Value α) : Prop :=
  ∀ items, value.get "clips" = .list items → ∀ item ∈ items, IdCounts item

/-- The value of a layer with the clips in it spelled out. -/
def spelledLayer (value : Value α) : Value α :=
  (value.modifyItems Value.spelled).modifyAt "clips" (Value.modifyItems Value.spelled)

/-- The value of a template with all ids and all references to clips spelled out. -/
def spelledSource (value : Value α) : Value α :=
  ((value.modifyAt "clips" (Value.modifyItems spelledClip)).modifyAt "size"
    (Value.modifyAt "relative_to" Value.spelled)).modifyAt "timeline"
      (Value.modifyAll (Value.modifyItems spelledLayer))

/-- A template with the clips that layouts refer to spelled out. -/
def spelled (template : Template α) : Template α :=
  { template with clips := template.clips.map Clip.spelled }

section Reading

private theorem bind_congr_of_ok {ε β γ : Type} {step : Except ε β} {next other : β → Except ε γ}
    (same : ∀ found, step = .ok found → next found = other found) :
    (step >>= next) = (step >>= other) := by
  cases step with
  | error fault => rfl
  | ok found => exact same found rfl

variable {directory : Path} {clips : List (Clip α)}

theorem readClipsFrom_spelledClip {items : List (Value α)} {index : ℕ} {known : List String}
    (count : ∀ item ∈ items, IdCounts item) :
    readClipsFrom directory index known (items.map spelledClip) =
      List.map Clip.spelled <$> readClipsFrom directory index known items := by
  induction items generalizing index known with
  | nil => rfl
  | cons item items ih =>
      rw [List.forall_mem_cons] at count
      rw [List.map_cons, readClipsFrom, readClipsFrom, readClip_spelledClip directory index count.1]
      simp only [bind_map_left, ih count.2, map_bind, map_pure,
        apply_ite (Functor.map (List.map (Clip.spelled (α := α))))]
      rfl

theorem readClips_modifyItems {value : Value α}
    (count : ∀ items, value = .list items → ∀ item ∈ items, IdCounts item) :
    readClips directory (value.modifyItems spelledClip) =
      List.map Clip.spelled <$> readClips directory value := by
  cases value with
  | list items =>
      cases items with
      | nil => rfl
      | cons first rest => exact readClipsFrom_spelledClip (count _ rfl)
  | _ => rfl

theorem find?_map_spelled {p : Clip α → Bool} (same : ∀ clip, p clip.spelled = p clip) :
    (clips.map Clip.spelled).find? p = (clips.find? p).map Clip.spelled := by
  rw [List.find?_map]
  congr 2
  exact funext same

theorem sizeReference_map_spelled (value : Value α) :
    sizeReference (clips.map Clip.spelled) value = sizeReference clips value := by
  cases value with
  | null =>
      rw [sizeReference, find?_map_spelled fun _ => rfl, sizeReference, Option.map_map]
      rfl
  | _ =>
      rw [sizeReference, find?_map_spelled fun _ => rfl, sizeReference]
      · cases clips.find? _ <;> rfl
      all_goals exact fun absent => nomatch absent

/-- The size that is read depends on what the clips are, and not on how they are laid out. -/
theorem readSize_map_spelled (value : Value α) :
    readSize (clips.map Clip.spelled) value = readSize clips value := by
  simp only [readSize, sizeReference_map_spelled]

/-- A size that refers to a clip by its name is read as if that were spelled out. -/
theorem readSize_modifyAt {value : Value α} (isName : (value.get "relative_to").IsName) :
    readSize clips (value.modifyAt "relative_to" Value.spelled) = readSize clips value := by
  rw [readSize, readSize, fields_modifyAt, bind_map_left]
  refine bind_congr_of_ok fun entries entriesRead => ?_
  have other_eq {other : String} (differs : other ≠ "relative_to") :
      Value.lookup? other (Value.modifyEntries "relative_to" Value.spelled entries) =
        Value.lookup? other entries :=
    Value.lookup?_modifyEntries_of_ne differs
  have reference_eq :
      Field.value (Value.lookup? "relative_to"
          (Value.modifyEntries "relative_to" Value.spelled entries)) =
        Field.value (Value.lookup? "relative_to" entries) := by
    rw [Value.lookup?_modifyEntries_self, lookup?_of_fields entriesRead]
    rw [Value.get] at isName
    cases found : value.get? "relative_to" with
    | none => rfl
    | some reference =>
        rw [found] at isName
        exact isName.spelled_eq
  simp only [reference_eq, other_eq (by decide : "width" ≠ "relative_to"),
    other_eq (by decide : "height" ≠ "relative_to"),
    other_eq (by decide : "background_color" ≠ "relative_to")]

omit [Scalar α] in
theorem isName_of_sizeReference {value : Value α} {reference : Option String}
    (found : sizeReference clips value = .ok reference) : value.IsName := by
  by_contra nameless
  have noClip : clips.find? (fun clip => value.isText clip.id) = none :=
    List.find?_eq_none.mpr fun clip _ => by simp [Value.isText_of_not_isName nameless]
  rw [sizeReference, noClip] at found
  · cases found
  · rintro rfl
    exact nameless trivial

/-- A size that refers to a clip by anything but its name is refused. -/
theorem isName_of_readSize {value : Value α} {size : SizeSpec α}
    (sizeRead : readSize clips value = .ok size) : (value.get "relative_to").IsName := by
  rw [readSize, Result.bind_eq_ok_iff] at sizeRead
  obtain ⟨entries, entriesRead, sizeRead⟩ := sizeRead
  obtain ⟨reference, found, -⟩ := Result.bind_eq_ok_iff.mp sizeRead
  rw [lookup?_of_fields entriesRead] at found
  exact isName_of_sizeReference found

/-! ## The timeline -/

theorem readLayer_spelledLayer (owner : String) (index : ℕ) (value : Value α) :
    readLayer owner index (spelledLayer value) = readLayer owner index value := by
  have texts_eq (ids : List (Value α)) :
      (ids.map Value.spelled).map Value.toText = ids.map Value.toText := by
    rw [List.map_map]
    exact List.map_congr_left fun id _ => id.toText_spelled
  cases value with
  | list ids =>
      change readLayer owner index (.list (ids.map Value.spelled)) = _
      simp only [readLayer, pure_bind, texts_eq]
  | map entries =>
      let changed := Value.modifyEntries "clips" (Value.modifyItems Value.spelled) entries
      have fields_eq (owner : String) : fields ["clips", "z_index"] owner (.map changed) = _ :=
        fields_modifyAt _ owner "clips" _ (.map entries)
      have clips_eq : (Value.map changed).get "clips" =
          ((Value.map entries).get "clips").modifyItems Value.spelled :=
        Value.get_modifyAt_self (.map entries) rfl
      have place_eq : (Value.map changed).get? "z_index" = (Value.map entries).get? "z_index" :=
        Value.get?_modifyAt_of_ne (.map entries) (by decide)
      change readLayer owner index (.map changed) = _
      simp only [readLayer, fields_eq, clips_eq, place_eq, bind_map_left, pure_bind]
      cases (Value.map entries).get "clips" with
      | list ids => simp only [Value.modifyItems, texts_eq]
      | _ => rfl
  | _ => rfl

theorem readLayersFrom_map_spelledLayer (owner : String) (index : ℕ) (values : List (Value α)) :
    readLayersFrom owner index (values.map spelledLayer) = readLayersFrom owner index values := by
  induction values generalizing index with
  | nil => rfl
  | cons value values ih =>
      simp only [List.map_cons, readLayersFrom, readLayer_spelledLayer, ih]

theorem readStart_modifyItems (start layers : Value α) :
    readStart (start, layers.modifyItems spelledLayer) = readStart (start, layers) := by
  cases layers with
  | list values => simp only [Value.modifyItems, readStart, readLayersFrom_map_spelledLayer]
  | _ => rfl

theorem defaultTimeline_map_spelled :
    defaultTimeline (clips.map Clip.spelled) = defaultTimeline clips := by
  rw [defaultTimeline, List.zipIdx_map, List.map_map]
  rfl

/-- The timeline is read by the texts of the ids in it. -/
theorem readTimeline_spelled (value : Value α) :
    readTimeline (clips.map Clip.spelled)
        (value.modifyAll (Value.modifyItems spelledLayer)) = readTimeline clips value := by
  cases value with
  | null =>
      change Except.ok (defaultTimeline (clips.map Clip.spelled)) = _
      rw [defaultTimeline_map_spelled]
      rfl
  | map entries =>
      cases entries with
      | nil => rfl
      | cons first rest =>
          change ((first :: rest).map fun entry =>
            (entry.1, entry.2.modifyItems spelledLayer)).mapM readStart = _
          rw [List.mapM_map]
          exact congrArg (List.mapM · (first :: rest))
            (funext fun entry => readStart_modifyItems entry.1 entry.2)
  | _ => rfl

/-! ## The whole template -/

variable {value : Value α}

/-- Where all ids count and the size refers to a clip by its name, a template is read as if ids
and references were spelled out. -/
theorem read_spelledSource (count : IdsCount value)
    (isName : ((value.get "size").get "relative_to").IsName) :
    read directory (spelledSource value) = spelled <$> read directory value := by
  have clips_eq : (spelledSource value).get "clips" =
      (value.get "clips").modifyItems spelledClip := by
    rw [spelledSource, Value.get_modifyAt_of_ne _ (by decide), Value.get_modifyAt_of_ne _ (by decide),
      Value.get_modifyAt_self _ rfl]
  have size_eq : (spelledSource value).get "size" =
      (value.get "size").modifyAt "relative_to" Value.spelled := by
    rw [spelledSource, Value.get_modifyAt_of_ne _ (by decide), Value.get_modifyAt_self _ rfl,
      Value.get_modifyAt_of_ne _ (by decide)]
  have timeline_eq : (spelledSource value).get "timeline" =
      (value.get "timeline").modifyAll (Value.modifyItems spelledLayer) := by
    rw [spelledSource, Value.get_modifyAt_self _ rfl, Value.get_modifyAt_of_ne _ (by decide),
      Value.get_modifyAt_of_ne _ (by decide)]
  have other_eq {key : String} (notClips : key ≠ "clips") (notSize : key ≠ "size")
      (notTimeline : key ≠ "timeline") : (spelledSource value).get key = value.get key := by
    rw [spelledSource, Value.get_modifyAt_of_ne _ notTimeline, Value.get_modifyAt_of_ne _ notSize,
      Value.get_modifyAt_of_ne _ notClips]
  simp (disch := decide) only [read, clips_eq, size_eq, timeline_eq, other_eq,
    readClips_modifyItems count, bind_map_left, readSize_map_spelled, readSize_modifyAt isName,
    readTimeline_spelled, map_bind, map_pure]
  rfl

/-- A template is refused whose size refers to a clip by anything but its name. -/
theorem isName_of_read {template : Template α} (accepted : read directory value = .ok template) :
    ((value.get "size").get "relative_to").IsName :=
  isName_of_readSize (parts_of_read accepted).2.1

/-- A clip is named by its id if that is set, and by its place otherwise. -/
theorem id_of_readClip {index : ℕ} {clip : Clip α}
    (clipRead : readClip directory index value = .ok clip) : clip.id = clipId index value := by
  cases value with
  | map entries =>
      rcases Result.bind_eq_ok_iff.mp clipRead with ⟨_, _, clipRead⟩
      obtain ⟨_, clipRead⟩ := Result.refused_eq_ok_iff.mp clipRead
      rcases Result.bind_eq_ok_iff.mp clipRead with ⟨_, _, clipRead⟩
      obtain ⟨_, clipRead⟩ := Result.refused_eq_ok_iff.mp clipRead
      simp only [Result.bind_eq_ok_iff] at clipRead
      rcases clipRead with ⟨_, _, _, _, _, _, _, _, _, _, _, _, _, _, clipRead⟩
      split at clipRead <;> simp only [Result.bind_eq_ok_iff, Result.pure_eq_ok_iff] at clipRead
      · rcases clipRead with ⟨_, _, _, _, rfl⟩
        rfl
      · rcases clipRead with ⟨_, _, _, _, _, _, rfl⟩
        rfl
  | _ => cases clipRead

theorem ids_of_readClipsFrom {items : List (Value α)} {index : ℕ} {known : List String}
    (clipsRead : readClipsFrom directory index known items = .ok clips) :
    clips.map Clip.id = items.mapIdx fun place item => clipId (index + place) item := by
  induction items generalizing index known clips with
  | nil =>
      cases clipsRead
      rfl
  | cons item items ih =>
      simp only [readClipsFrom, Result.bind_eq_ok_iff] at clipsRead
      rcases clipsRead with ⟨first, firstRead, rest⟩
      obtain ⟨_, rest⟩ := Result.refused_eq_ok_iff.mp rest
      simp only [Result.bind_eq_ok_iff, Result.pure_eq_ok_iff] at rest
      rcases rest with ⟨others, othersRead, rfl⟩
      simp only [List.map_cons, List.mapIdx_cons, id_of_readClip firstRead, ih othersRead,
        Nat.add_zero, Nat.add_assoc, Nat.add_comm 1]

/-- The clips of a template that is read are named one by one. -/
theorem ids_of_read {template : Template α} {items : List (Value α)}
    (accepted : read directory value = .ok template) (listed : value.get "clips" = .list items) :
    template.clips.map Clip.id = items.mapIdx clipId := by
  obtain ⟨clipsRead, _⟩ := parts_of_read accepted
  rw [listed] at clipsRead
  cases items with
  | nil => cases clipsRead
  | cons first rest => simpa using ids_of_readClipsFrom clipsRead

end Reading

end Template

/-! ## The canvas -/

theorem Template.clip_spelled (template : Template α) (id : String) :
    template.spelled.clip id = Clip.spelled <$> template.clip id := by
  have found_eq : clip? id template.spelled.clips = (clip? id template.clips).map Clip.spelled :=
    find?_map_spelled fun _ => rfl
  rw [Template.clip, found_eq, Template.clip]
  cases clip? id template.clips <;> rfl

variable [Analytic α] {infos : MediaMap α}

/-- The canvas is measured against what a clip shows, and not against its layout. -/
theorem Canvas.size_spelled (template : Template α) :
    size template.spelled infos = size template infos := by
  have reference_eq (axis : Axis) :
      reference template.spelled infos axis = reference template infos axis := by
    simp only [reference, Template.clip_spelled, bind_map_left]
    rfl
  simp only [size, side, reference_eq]
  rfl

/-! ## Places -/

omit [Analytic α] in
/-- A clip that refers to another by its name is spelled as it is. -/
theorem Clip.spelled_eq {clip : Clip α} (isName : clip.layout.relativeTo.value.IsName) :
    clip.spelled = clip := by
  have kept : clip.layout.relativeTo.map Value.spelled = clip.layout.relativeTo := by
    cases referred : clip.layout.relativeTo with
    | none => rfl
    | some value =>
        rw [referred] at isName
        exact congrArg some isName.spelled_eq
  rw [Clip.spelled, Layout.spelled, kept]

namespace Placement

variable {canvas : Extent} {clips : List (Clip α)} {placed places : GeometryMap α}

/-- Whether the clips with a picture refer to others by their names. -/
def AllNamed (infos : MediaMap α) (clips : List (Clip α)) : Prop :=
  ∀ clip ∈ clips, ∀ info, infos.info clip.id = .ok info → info.kind ≠ .audio →
    clip.layout.relativeTo.value.IsName

theorem clipsAfter_map_spelled (named : AllNamed infos clips) :
    clipsAfter canvas infos placed (clips.map Clip.spelled) =
      clipsAfter canvas infos placed clips := by
  induction clips generalizing placed with
  | nil => rfl
  | cons next rest ih =>
      obtain ⟨nextNamed, restNamed⟩ := List.forall_mem_cons.mp named
      rw [List.map_cons, clipsAfter, clipsAfter]
      simp only [ih restNamed]
      change (infos.info next.id >>= _) = _
      cases known : infos.info next.id with
      | error fault => rfl
      | ok info =>
          by_cases silent : info.kind = .audio
          · simp [silent]
          · rw [Clip.spelled_eq (nextNamed info known silent)]

omit [Scalar α] [Analytic α] in
theorem isName_of_reference {id : String} {relativeTo : Value α} {whole : Extent}
    (found : reference id relativeTo canvas placed = .ok whole) : relativeTo.IsName := by
  cases relativeTo with
  | null | text _ => trivial
  | _ => cases found

/-- Clips with a picture are placed only if they refer to others by their names. -/
theorem allNamed_of_clipsAfter (placing : clipsAfter canvas infos placed clips = .ok places) :
    AllNamed infos clips := by
  induction clips generalizing placed with
  | nil => exact fun _ member => nomatch member
  | cons next rest ih =>
      obtain ⟨info, known, placing⟩ := Result.bind_eq_ok_iff.mp placing
      split at placing
      next silent =>
        refine List.forall_mem_cons.mpr ⟨fun other found visible => ?_, ih placing⟩
        rw [known] at found
        cases found
        exact absurd (beq_iff_eq.mp silent) visible
      next =>
        obtain ⟨geometry, placedNext, placing⟩ := Result.bind_eq_ok_iff.mp placing
        refine List.forall_mem_cons.mpr ⟨fun _ _ _ => ?_, ih placing⟩
        obtain ⟨whole, found, -⟩ := Result.bind_eq_ok_iff.mp placedNext
        exact isName_of_reference found

end Placement

namespace Template

/-- Ids and references are read by their texts, with three exceptions: an id that is not set
gives way to the place of its clip, a size that refers to a clip by anything but a text is
refused, and a clip with a picture whose layout does so is not placed. -/
theorem spelling_of_references (directory : Path) (value : Value α) :
    (IdsCount value → ((value.get "size").get "relative_to").IsName →
        read directory (spelledSource value) = spelled <$> read directory value) ∧
      ∀ template, read directory value = .ok template →
        ((value.get "size").get "relative_to").IsName ∧
          (∀ items, value.get "clips" = .list items →
            template.clips.map Clip.id = items.mapIdx fun index item =>
              if (item.get "id").isSet then (item.get "id").toText else s!"CLIP_{index}") ∧
          ∀ infos : MediaMap α, Canvas.size template.spelled infos = Canvas.size template infos ∧
            ∀ canvas,
              (Placement.AllNamed infos template.clips →
                template.spelled.geometry canvas infos = template.geometry canvas infos) ∧
              (¬Placement.AllNamed infos template.clips →
                ∀ places, template.geometry canvas infos ≠ .ok places) := by
  refine ⟨read_spelledSource, fun template accepted => ⟨isName_of_read accepted, ?_, ?_⟩⟩
  · exact fun items listed => ids_of_read accepted listed
  · refine fun infos => ⟨Canvas.size_spelled template, fun canvas => ⟨?_, ?_⟩⟩
    · exact Placement.clipsAfter_map_spelled
    · exact fun nameless places placing => nameless (Placement.allNamed_of_clipsAfter placing)

/-! ## A clip that is named by a number -/

/-- Two clips with a number and a truth value for ids.  The size refers to the first by the given
value, and the layout of the second by its text. -/
def numberedSource (reference : Value ℚ) : Value ℚ :=
  .map [
    (.text "clips", .list [
      .map [(.text "id", .number 1), (.text "file", .text "whole.mp4")],
      .map [(.text "id", .bool true), (.text "file", .text "half.mp4"),
        (.text "layout", .map [(.text "width", .text "50%"), (.text "relative_to", .text "1")])]]),
    (.text "size", .map [(.text "relative_to", reference)]),
    (.text "timeline", .map [(.text "00:00:00", .list [.list [.number 1, .bool true]])])]

/-- The template that is read from it if the size refers to the first clip by its text. -/
def numberedTemplate : Template ℚ where
  clips :=
    [.plain "1" "/whole.mp4",
      { Clip.plain "True" "/half.mp4" with
        layout := ⟨none, none, some (.text "50%"), none, some (.text "1")⟩ }]
  size := ⟨.text "100%", .text "100%", some "1", "black"⟩
  timeline := [(.text "00:00:00", [⟨["1", "True"], 0⟩])]
  preview := .text "00:00:00"
  keypoints := []
  directory := ⟨"/", []⟩

theorem read_numberedSource :
    read ⟨"/", []⟩ (numberedSource (.text "1")) = .ok numberedTemplate := by
  with_unfolding_all rfl

/-- The ids may be spelled out where the references are texts. -/
theorem numberedSource_spelled :
    IdsCount (numberedSource (.text "1")) ∧
      read ⟨"/", []⟩ (spelledSource (numberedSource (.text "1"))) = .ok numberedTemplate.spelled ∧
      ∀ (_ : Analytic ℚ) (infos : MediaMap ℚ) (canvas : Extent),
        Canvas.size numberedTemplate.spelled infos = Canvas.size numberedTemplate infos ∧
          numberedTemplate.spelled.geometry canvas infos =
            numberedTemplate.geometry canvas infos := by
  have count : IdsCount (numberedSource (.text "1")) := by
    rintro items listed
    cases listed
    exact List.forall_mem_cons.mpr ⟨rfl, List.forall_mem_singleton.mpr rfl⟩
  refine ⟨count, ?_, fun analytic infos canvas => ?_⟩
  · let _ : Analytic ℚ := ⟨fun _ => 0, fun _ => 1, fun x _ => x⟩
    rw [(spelling_of_references _ _).1 count trivial, read_numberedSource]
    rfl
  · have named : Placement.AllNamed infos numberedTemplate.clips :=
      List.forall_mem_cons.mpr ⟨fun _ _ _ => trivial,
        List.forall_mem_singleton.mpr fun _ _ _ => trivial⟩
    obtain ⟨-, -, kept⟩ := (spelling_of_references _ _).2 numberedTemplate read_numberedSource
    exact ⟨(kept infos).1, ((kept infos).2 canvas).1 named⟩

/-- A size that refers to a clip by its number is refused, and accepted once it is spelled out. -/
theorem numberedSource_refused :
    read ⟨"/", []⟩ (numberedSource (.number 1)) =
        Result.refuse (.sizeReference (.number 1)) ∧
      read ⟨"/", []⟩ (spelledSource (numberedSource (.number 1))) = .ok numberedTemplate := by
  constructor <;> with_unfolding_all rfl

end Template

end Montage
