import Montage.Proofs.Geometry.Places
import Montage.Proofs.Render.TextAsset.Drawing
import Montage.Proofs.Template.Clips

/-!
# How wide a text is drawn and shown

The width in the layout of a text is read twice: when its lines are broken, and when its picture
is placed.  A count of pixels is the same both times.  A share is of the canvas when the text is
drawn, and of the clip that the layout refers to when the picture is placed.
-/

namespace Montage.TextAsset

variable {α : Type} [Scalar α] {canvas whole : Extent} {length : Value α} {given : ℤ}

/-! ## The width of a picture -/

/-- A text with a width is set on a patch of that width, if there is room for a pixel. -/
theorem width_of_setBy {painter : Painter α} {usable : Path → Bool} {content : String}
    {font : Font α} {image : TextImage α}
    (set_eq : TextImage.setBy painter usable content font (some given) = .ok image)
    (visible : 1 ≤ given) : image.width = given := by
  simp only [TextImage.setBy, Result.bind_eq_ok_iff, Result.pure_eq_ok_iff] at set_eq
  obtain ⟨_, _, _, _, _, _, _, _, _, _, _, _, rfl⟩ := set_eq
  exact max_eq_right visible

theorem width_of_image {width height : α} {info : MediaInfo α}
    (made : MediaInfo.image width height = .ok info) :
    info.width = width ∧ info.kind = .image := by
  obtain ⟨_, _, finished⟩ := Result.bind_eq_ok_iff.mp made
  cases finished
  exact ⟨rfl, rfl⟩

/-! ## The width of a place -/

/-- A layout gives a width exactly if it gives a side, which is then cut to whole pixels. -/
theorem width_eq_some_iff :
    width whole length = .ok (some given) ↔
      ∃ side, Placement.givenSide whole.width length = .ok (some side) ∧
        Scalar.floor side = .ok given := by
  change (Placement.givenSide whole.width length >>= _) = _ ↔ _
  rw [Result.bind_eq_ok_iff]
  constructor
  · rintro ⟨_ | side, measured, floored⟩
    · cases floored
    · obtain ⟨count, cut, same⟩ := Result.map_eq_ok_iff.mp floored
      cases same
      exact ⟨side, measured, Result.lift_eq_ok_iff.mp cut⟩
  · rintro ⟨side, measured, floored⟩
    exact ⟨some side, measured,
      Result.map_eq_ok_iff.mpr ⟨given, Result.lift_eq_ok_iff.mpr floored, rfl⟩⟩

/-- A width that is given when it is measured against one thing is given also against others. -/
theorem exists_givenSide {side : α} {found : Option α} {first second : ℤ}
    (asked : Placement.givenSide first length = .ok (some side))
    (again : Placement.givenSide second length = .ok found) : ∃ other, found = some other := by
  rw [Placement.givenSide, Length.resolve] at asked again
  cases kind : Length.ofValue length <;> rw [kind] at asked again
  case omitted => cases asked
  case percentage fraction =>
      obtain ⟨other, _, finished⟩ := Result.bind_eq_ok_iff.mp again
      exact ⟨other, (Result.pure_eq_ok_iff.mp finished).symm⟩
  case pixels count =>
      cases again
      exact ⟨count, rfl⟩
  case invalid => cases asked

/-- The picture of a text with a width is scaled to that width, measured against what shares in
its layout are of. -/
theorem width_of_scale {clip : Clip α} {info : MediaInfo α} {size : Extent}
    (asked : width canvas clip.layout.width.value = .ok (some given))
    (scaled : Placement.scale clip info whole = .ok size) :
    width whole clip.layout.width.value = .ok (some size.width) := by
  obtain ⟨side, sideAsked, _⟩ := width_eq_some_iff.mp asked
  simp only [Placement.scale, Result.bind_eq_ok_iff] at scaled
  obtain ⟨_, sideShown, _, _, _, _, shown, floored, _, _, scaled⟩ := scaled
  obtain ⟨exact, rfl⟩ := exists_givenSide sideAsked sideShown
  obtain ⟨_, finished⟩ := Result.refused_eq_ok_iff.mp scaled
  cases finished
  exact width_eq_some_iff.mpr ⟨exact, sideShown, Result.lift_eq_ok_iff.mp floored⟩

/-- Measured against anything a width in pixels is the same. -/
theorem width_of_pixels (pixels : Length.isPercentage length = false) :
    width whole length = width canvas length := by
  rw [(Length.means_ofValue length).isReadAs.isPercentage_eq] at pixels
  rw [width, width, Length.resolve, Length.resolve]
  cases kind : Length.ofValue length with
  | percentage fraction =>
      rw [kind] at pixels
      cases pixels
  | _ => rfl

/-! ## Texts of a template -/

omit [Scalar α] in
theorem id_shown (output : Path) (clip : Clip α) : (shown output clip).id = clip.id := by
  rw [shown]
  split <;> rfl

omit [Scalar α] in
theorem layout_shown (output : Path) (clip : Clip α) :
    (shown output clip).layout = clip.layout := by
  rw [shown]
  split <;> rfl

/-- Every text has a picture that is known. -/
theorem Draws.exists_known {painter : Painter α} {clips : List (Clip α)}
    {drawings : List (Drawing α)} (draws : Draws painter canvas clips drawings) (distinct : (clips.map Clip.id).Nodup) {clip : Clip α}
    (member : clip ∈ clips) (isText : clip.isMedia = false) :
    ∃ drawing ∈ drawings, drawing.clip = clip ∧
      (known drawings).lookup clip.id = some drawing.info := by
  have listed : clip ∈ drawings.map Drawing.clip := by
    rw [draws.clips_eq]
    exact List.mem_filter.mpr ⟨member, by rw [isText]; rfl⟩
  obtain ⟨drawing, drawingMem, rfl⟩ := List.mem_map.mp listed
  obtain ⟨before, after, rfl⟩ := List.append_of_mem drawingMem
  have apart := draws.nodup_ids distinct
  refine ⟨drawing, drawingMem, rfl, List.lookup_eq_some_iff.mpr
    ⟨known before, known after, List.map_append, ?_⟩⟩
  rw [List.map_append, List.nodup_append] at apart
  refine List.forall_mem_map.mpr fun other otherMem => bne_iff_ne.mpr ?_
  exact (apart.2.2 _ (List.mem_map_of_mem otherMem) drawing.clip.id List.mem_cons_self).symm

variable [Analytic α] {template converted : Template α} {session behind : Session α}
  {drawn probed : MediaMap α} {places : GeometryMap α}

/-- A text with a width is drawn at that width measured against the canvas, and shown at that
width measured against what shares in its layout are of.  So both are the same for a count of
pixels, and for a share unless the layout refers to another clip. -/
theorem width_drawn_and_shown {directory output : Path} {quiet : Bool} {value : Value α}
    (accepted : Template.read directory value = .ok template)
    (ran : (convertAll canvas output quiet template).outcome session =
      (.ok (converted, drawn), behind))
    (located : converted.geometry canvas (drawn ++ probed) = .ok places)
    {clip : Clip α} (member : clip ∈ template.clips) (isText : clip.isMedia = false)
    (asked : width canvas clip.layout.width.value = .ok (some given)) (visible : 1 ≤ given) :
    ∃ info place whole, drawn.lookup clip.id = some info ∧ places.lookup clip.id = some place ∧
      info.width = Scalar.ofInt given ∧
      Placement.Refers canvas places clip.layout.relativeTo.value whole ∧
      width whole clip.layout.width.value = .ok (some place.scale.width) ∧
      (place.scale.width = given ↔
        width whole clip.layout.width.value = width canvas clip.layout.width.value) ∧
      (clip.layout.relativeTo.value = .null ∨
          Length.isPercentage clip.layout.width.value = false →
        place.scale.width = given) := by
  have distinct := Template.nodup_ids accepted
  obtain ⟨drawings, draws, rfl, rfl, _⟩ := exists_drawings ran
  obtain ⟨drawing, drawingMem, rfl, looked⟩ := draws.exists_known distinct member isText
  obtain ⟨-, ⟨usable, width_eq, measured, set_eq⟩, -, info_eq⟩ := draws.set drawing drawingMem
  rw [asked] at measured
  cases measured
  obtain ⟨infoWidth, kind_eq⟩ := width_of_image info_eq
  rw [width_of_setBy set_eq visible] at infoWidth
  have ids_eq : (template.clips.map (shown output)).map Clip.id = template.clips.map Clip.id := by
    rw [List.map_map]
    exact List.map_congr_left fun clip _ => id_shown output clip
  have found : (known drawings ++ probed).info (shown output drawing.clip).id = .ok drawing.info := by
    rw [MediaMap.info, id_shown, List.lookup_append, looked]
    rfl
  obtain ⟨place, whole, placed, refers, scaled⟩ :=
    Template.exists_place_of_geometry (ids_eq ▸ distinct) located (List.mem_map_of_mem member)
      found (by rw [kind_eq]; decide)
  rw [id_shown] at placed
  have shownAt := width_of_scale ((layout_shown output drawing.clip).symm ▸ asked) scaled
  rw [layout_shown] at refers shownAt
  have same_iff : place.scale.width = given ↔
      width whole drawing.clip.layout.width.value = width canvas drawing.clip.layout.width.value := by
    rw [shownAt, asked, Except.ok.injEq, Option.some_inj]
  refine ⟨drawing.info, place, whole, looked, placed, infoWidth, refers, shownAt, same_iff, ?_⟩
  rintro (unreferred | pixels)
  · rw [unreferred] at refers
    cases refers
    exact same_iff.mpr rfl
  · exact same_iff.mpr (width_of_pixels pixels)

/-! ## A label that is narrower than it is drawn -/

/-- Two texts, one a hundred pixels wide and the other half as wide as something. -/
def labelSource (reference : Value ℚ) : Value ℚ :=
  .map [
    (.text "clips", .list [
      .map [(.text "id", .text "frame"), (.text "text", .text "one"),
        (.text "layout", .map [(.text "width", .text "100px")])],
      .map [(.text "id", .text "label"), (.text "text", .text "one"),
        (.text "layout", .map [(.text "width", .text "50%"), (.text "relative_to", reference)])]]),
    (.text "size", .map [(.text "width", .text "200px"), (.text "height", .text "100px")])]

/-- A clip of a text in the usual font. -/
def labelClip (id : String) (layout : Layout ℚ) : Clip ℚ :=
  { Clip.plain id "" with source := .text "one" (Template.fontOf []), layout }

/-- The template that is read from it. -/
def labelTemplate (reference : Value ℚ) : Template ℚ where
  clips :=
    [labelClip "frame" ⟨none, none, some (.text "100px"), none, none⟩,
      labelClip "label" ⟨none, none, some (.text "50%"), none, some reference⟩]
  size := ⟨.text "200px", .text "100px", none, "black"⟩
  timeline := [(.text "00:00:00", [⟨["frame"], 0⟩, ⟨["label"], 1⟩])]
  preview := .text "00:00:00"
  keypoints := []
  directory := ⟨"/", []⟩

theorem read_labelSource (reference : Value ℚ) :
    Template.read ⟨"/", []⟩ (labelSource reference) = .ok (labelTemplate reference) := by
  with_unfolding_all rfl

/-- The run that draws the texts on an empty disk. -/
def labelOutcome (reference : Value ℚ) : Result ℚ (Template ℚ × MediaMap ℚ) × Session ℚ :=
  (convertAll ⟨200, 100⟩ (.ofText "out") true (labelTemplate reference)).outcome
    (Session.ofFiles [])

/-- The widths at which the texts are drawn, and those at which they are shown. -/
def labelWidths [Analytic ℚ] (reference : Value ℚ) : Result ℚ (List ℚ × List ℤ) := do
  let (converted, drawn) ← (labelOutcome reference).1
  let places ← converted.geometry ⟨200, 100⟩ drawn
  return (drawn.map fun picture => picture.2.width, places.map fun place => place.2.scale.width)

/-- Half of the canvas is drawn and shown as it is. -/
theorem label_of_canvas :
    let _ : Analytic ℚ := ⟨fun _ => 0, fun _ => 1, fun x _ => x⟩
    ∃ converted drawn behind places, labelOutcome .null = (.ok (converted, drawn), behind) ∧
      converted.geometry ⟨200, 100⟩ drawn = .ok places ∧
      ∃ info place, drawn.lookup "label" = some info ∧ places.lookup "label" = some place ∧
        info.width = 100 ∧ place.scale.width = 100 := by
  intro _
  obtain ⟨⟨converted, drawn⟩, behind, ran⟩ :=
    Program.exists_of_isSome (by decide +kernel : (labelOutcome .null).1.toOption.isSome = true)
  have succeeds : (labelWidths .null).toOption.isSome = true := by
    decide +kernel
  rw [labelWidths, ran, Result.ok_bind] at succeeds
  cases located : converted.geometry ⟨200, 100⟩ drawn with
  | error fault =>
      dsimp only at succeeds
      rw [located] at succeeds
      cases succeeds
  | ok places =>
      have asked : width ⟨200, 100⟩ (.text "50%" : Value ℚ) = .ok (some 100) :=
        Result.toOption_eq_some_iff.mp (by decide +kernel)
      have member : labelClip "label" ⟨none, none, some (.text "50%"), none, some .null⟩ ∈
          (labelTemplate .null).clips := List.mem_cons_of_mem _ List.mem_cons_self
      obtain ⟨info, place, _, looked, placed, drawnAt, _, _, _, sameWidth⟩ :=
        width_drawn_and_shown (read_labelSource .null) ran ((List.append_nil drawn).symm ▸ located)
          member rfl asked (by decide)
      exact ⟨converted, drawn, behind, places, ran, located, info, place, looked, placed, drawnAt,
        sameWidth (.inl rfl)⟩

/-- Half of a text that is a hundred pixels wide is drawn at a hundred pixels and shown at
fifty. -/
theorem label_of_frame :
    let _ : Analytic ℚ := ⟨fun _ => 0, fun _ => 1, fun x _ => x⟩
    Template.read ⟨"/", []⟩ (labelSource (.text "frame")) =
        .ok (labelTemplate (.text "frame")) ∧
      (labelWidths (.text "frame")).toOption = some ([100, 100], [100, 50]) := by
  intro _
  exact ⟨read_labelSource _, by decide +kernel⟩

end Montage.TextAsset
