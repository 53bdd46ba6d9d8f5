import Montage.Proofs.Path.Below
import Montage.Proofs.Render.TextAsset.Drawing
import Montage.Proofs.Template.Clips

/-!
# The files of pictures

The picture of a text is saved to a file that is named after the id of its clip.  Ids are distinct
as texts, and they are read as ways from the folder of the pictures: points and slashes in them
lead somewhere else, so that two ids may name one file and an id may name a file outside of the
folder.  A file that is saved twice holds what has been saved last, and nothing is saved where
there is no folder for it.
-/

namespace Montage

/-! ## Files that are saved one after another -/

namespace Files

variable {α : Type} {files : Files α} {path other : Path} {entry : FileEntry α}

theorem held_replace_self (same : path.resolve.toText = other.resolve.toText) :
    Files.entry? (files.replace path entry) other = some entry := by
  rw [Files.entry?, replace, same]
  exact Association.lookup_put_self _ _ _

theorem held_replace_of_ne (differs : path.resolve.toText ≠ other.resolve.toText) :
    Files.entry? (files.replace path entry) other = files.entry? other := by
  rw [Files.entry?, replace]
  exact Association.lookup_put_of_ne differs.symm _ _

end Files

namespace TextAsset

variable {α : Type} [Scalar α] {folder : String} {files : Files α} {drawings : List (Drawing α)}
  {session behind : Session α}

/-! ## Where the files are -/

/-- The way from the folder of the pictures to the file of a clip. -/
def way (id : String) : Path :=
  .ofText s!"{id}.png"

/-- The folder of the pictures. -/
def pictureFolder (folder : String) : Path :=
  TextAsset.folder (.ofText folder)

theorem path_eq_join (id : String) :
    path (.ofText folder) id = (pictureFolder folder).join (way id) :=
  rfl

theorem parts_pictureFolder (folder : String) :
    (pictureFolder folder).resolve.parts = (Path.ofText folder).resolve.parts ++ [folderName] :=
  Path.parts_resolve_of_descend rfl rfl

theorem isName_of_mem_path {id part : String}
    (member : part ∈ (path (.ofText folder) id).resolve.parts) : Path.IsName part := by
  refine Path.isName_of_mem_resolve_of_read (fun part member => ?_) member
  rcases Path.mem_parts_of_mem_join member with inFolder | inWay
  · rcases Path.mem_parts_of_mem_join inFolder with inFolder | isFolder
    · exact Path.isName_or_of_mem_ofText inFolder
    · exact Path.isName_or_of_mem_ofText isFolder
  · exact Path.isName_or_of_mem_ofText inWay

theorem resolve_eq_of_toText_eq {id other : String}
    (same : (path (.ofText folder) id).resolve.toText =
      (path (.ofText folder) other).resolve.toText) :
    (path (.ofText folder) id).resolve = (path (.ofText folder) other).resolve := by
  have spelled (id : String) : Path.ofText (path (.ofText folder) id).resolve.toText =
      (path (.ofText folder) id).resolve :=
    Path.ofText_toText fun _ => isName_of_mem_path
  rw [← spelled id, same, spelled]

theorem toList_fileName (id : String) : s!"{id}.png".toList = id.toList ++ ".png".toList :=
  String.toList_append

theorem fileName_eq (id : String) :
    s!"{id}.png" = String.ofList (id.toList ++ ".png".toList) := by
  rw [← toList_fileName, String.ofList_toList]

/-- With its ending a name is neither empty nor made of points. -/
theorem ofList_ending_ne (letters : List Char) {short : String} (isShort : short.length < 4) :
    String.ofList (letters ++ ".png".toList) ≠ short := by
  rintro rfl
  rw [String.length_ofList, List.length_append] at isShort
  exact absurd isShort (Nat.not_lt.mpr (Nat.le_add_left 4 _))

theorem ofList_ending_kept (letters : List Char) :
    (String.ofList (letters ++ ".png".toList) != "" &&
      String.ofList (letters ++ ".png".toList) != ".") = true := by
  rw [Bool.and_eq_true, bne_iff_ne, bne_iff_ne]
  exact ⟨ofList_ending_ne letters (by decide), ofList_ending_ne letters (by decide)⟩

/-- The way to a file ends with a name. -/
theorem exists_parts_way (id : String) :
    ∃ init last, (way id).parts = init ++ [last] ∧ last ≠ ".." := by
  obtain ⟨init, last, -, split⟩ :=
    Text.exists_parts_append id.toList (by decide : '/' ∉ ".png".toList)
  refine ⟨(init.map String.ofList).filter fun part => part != "" && part != ".",
    String.ofList (last ++ ".png".toList), ?_, ofList_ending_ne last (by decide)⟩
  rw [way, Path.ofText, Text.fields, toList_fileName, split, List.map_append, List.filter_append,
    List.map_singleton, List.filter_singleton, ofList_ending_kept last]
  rfl

theorem ne_nil_of_descend_way {id : String} {inner : List String}
    (descends : Path.descend [] (way id).parts = some inner) : inner ≠ [] := by
  obtain ⟨init, last, parts_eq, notPoints⟩ := exists_parts_way id
  exact Path.ne_nil_of_descend notPoints (parts_eq ▸ descends)

/-- An id without slashes is a name in the folder. -/
theorem way_of_plain {id : String} (plain : '/' ∉ id.toList) : way id = ⟨"", [s!"{id}.png"]⟩ := by
  have noSlash : '/' ∉ id.toList ++ ".png".toList := by
    rw [List.mem_append, not_or]
    exact ⟨plain, by decide⟩
  have root_eq : Path.rootOf (id.toList ++ ".png".toList) = "" := by
    cases letters : id.toList ++ ".png".toList with
    | nil => rfl
    | cons c rest =>
        rw [letters] at noSlash
        have differs : c ≠ '/' := fun slash => noSlash (slash ▸ List.mem_cons_self)
        simp [Path.rootOf, differs]
  rw [way, Path.ofText, Text.fields, toList_fileName, Text.parts_of_not_mem noSlash, root_eq,
    List.map_singleton, List.filter_singleton, ofList_ending_kept, fileName_eq]
  rfl

/-- The file of an id stays below the folder of the pictures, at the given parts. -/
def IsAt (id : String) (inner : List String) : Prop :=
  (way id).isAbsolute = false ∧ Path.descend [] (way id).parts = some inner

/-- The file of an id without slashes is in the folder, under the id. -/
theorem isAt_of_plain {id : String} (plain : '/' ∉ id.toList) : IsAt id [s!"{id}.png"] := by
  have notPoints : s!"{id}.png" ≠ ".." := by
    rw [fileName_eq]
    exact ofList_ending_ne id.toList (by decide)
  rw [IsAt, way_of_plain plain, Path.descend_cons notPoints]
  exact ⟨rfl, rfl⟩

omit [Scalar α] in
/-- Once the folder of the pictures has been made, there is a folder for every id without
slashes. -/
theorem reaches_of_plain {id : String} (plain : '/' ∉ id.toList) :
    (session.withFolder (pictureFolder folder)).reaches (path (.ofText folder) id) = true := by
  apply Session.reaches_withFolder
  have isConcat : path (.ofText folder) id =
      ⟨(pictureFolder folder).root, (pictureFolder folder).parts ++ [s!"{id}.png"]⟩ := by
    rw [path_eq_join, way_of_plain plain]
    rfl
  intro way member
  rw [isConcat, Path.above_concat, List.mem_append, List.mem_singleton] at member
  exact List.mem_cons.mpr member.symm

/-- An id with a slash asks for a folder that nobody makes. -/
example :
    let nowhere : Session ℚ := { Session.ofFiles [] with folders := fun _ => false }
    (nowhere.withFolder (pictureFolder "out")).reaches (path (.ofText "out") "a/b") = false := by
  decide +kernel

theorem IsAt.parts_eq {id : String} {inner : List String} (isAt : IsAt id inner) :
    (path (.ofText folder) id).resolve.parts = (pictureFolder folder).resolve.parts ++ inner :=
  Path.parts_resolve_of_descend isAt.1 isAt.2

theorem IsAt.isBelow {id : String} {inner : List String} (isAt : IsAt id inner) :
    (pictureFolder folder).IsBelow (path (.ofText folder) id) :=
  ⟨inner, ne_nil_of_descend_way isAt.2, isAt.parts_eq⟩

/-- An id that climbs over the folder is not below it, unless it comes back by its name. -/
theorem not_isBelow_of_climbs {id : String} (relative : (way id).isAbsolute = false)
    (climbs : Path.descend [] (way id).parts = none) (unnamed : folderName ∉ (way id).parts) :
    ¬(pictureFolder folder).IsBelow (path (.ofText folder) id) :=
  Path.not_isBelow_of_descend relative climbs (parts_pictureFolder folder) unnamed

theorem fileName_injective {first second : String}
    (same : s!"{first}.png" = s!"{second}.png") : first = second := by
  have letters := congrArg String.toList same
  rw [toList_fileName, toList_fileName] at letters
  exact String.toList_injective (List.append_cancel_right letters)

/-! ## What the files hold -/

/-- Whether the pictures of two drawings are saved to one file. -/
def SharesFile (folder : String) (first second : Drawing α) : Prop :=
  (first.file (.ofText folder)).resolve = (second.file (.ofText folder)).resolve

instance (folder : String) (first second : Drawing α) : Decidable (SharesFile folder first second) :=
  inferInstanceAs (Decidable (_ = _))

/-- The last picture that is saved to a file stays. -/
theorem held_saved (drawing : Drawing α) :
    Files.entry? (saved (.ofText folder) files drawings) (drawing.file (.ofText folder)) =
      ((drawings.filter fun other => SharesFile folder other drawing).getLast?.map
        Drawing.entry).or (files.entry? (drawing.file (.ofText folder))) := by
  induction drawings generalizing files with
  | nil => rfl
  | cons first rest ih =>
      rw [saved, List.foldl_cons]
      change Files.entry? (saved _ _ rest) _ = _
      rw [ih]
      by_cases shares : SharesFile folder first drawing
      · rw [List.filter_cons_of_pos (by simpa using shares),
          Files.held_replace_self (congrArg Path.toText shares)]
        cases (rest.filter fun other => SharesFile folder other drawing) with
        | nil => rfl
        | cons next others =>
            rw [List.getLast?_cons_cons, List.getLast?_cons]
            rfl
      · rw [List.filter_cons_of_neg (by simpa using shares), Files.held_replace_of_ne]
        exact fun same => shares (resolve_eq_of_toText_eq same)

omit [Scalar α] in
theorem mem_sharing (folder : String) {drawing : Drawing α} (member : drawing ∈ drawings) :
    drawing ∈ drawings.filter fun other => SharesFile folder other drawing :=
  List.mem_filter.mpr ⟨member, decide_eq_true rfl⟩

/-- Behind a run the file of a text holds the picture of the last text with that file. -/
theorem held_saved_of_mem {drawing : Drawing α} (member : drawing ∈ drawings) :
    Files.entry? (saved (.ofText folder) files drawings) (drawing.file (.ofText folder)) =
      (drawings.filter fun other => SharesFile folder other drawing).getLast?.map
        Drawing.entry := by
  rw [held_saved, List.getLast?_eq_some_getLast (List.ne_nil_of_mem (mem_sharing folder member))]
  rfl

/-- A text whose file no other has finds its own picture there. -/
theorem held_saved_of_apart {drawing : Drawing α} (member : drawing ∈ drawings)
    (apart : ∀ other ∈ drawings, SharesFile folder other drawing → other = drawing) :
    Files.entry? (saved (.ofText folder) files drawings) (drawing.file (.ofText folder)) =
      some drawing.entry := by
  have sharing := List.ne_nil_of_mem (mem_sharing folder member)
  rw [held_saved_of_mem member, List.getLast?_eq_some_getLast sharing]
  obtain ⟨lastMem, lastShares⟩ := List.mem_filter.mp (List.getLast_mem sharing)
  rw [apart _ lastMem (of_decide_eq_true lastShares)]
  rfl

/-! ## Pictures of a template -/

omit [Scalar α] in
/-- Below the folder two files are the same exactly if they are at the same parts. -/
theorem IsAt.sharesFile_iff {first second : Drawing α} {inner others : List String}
    (isAt : IsAt first.clip.id inner) (isAt' : IsAt second.clip.id others) :
    SharesFile folder first second ↔ inner = others := by
  have parts_iff : SharesFile folder first second ↔
      (path (.ofText folder) first.clip.id).resolve.parts =
        (path (.ofText folder) second.clip.id).resolve.parts :=
    ⟨congrArg Path.parts, fun same => congrArg (Path.mk "/") same⟩
  rw [parts_iff, isAt.parts_eq, isAt'.parts_eq, List.append_cancel_left_eq]

/-- How the pictures of texts are kept in files behind a run. -/
structure Keeps (folder : String) (drawings : List (Drawing α)) (behind : Session α) : Prop where
  /-- In a picture is the text that it has been drawn of. -/
  shows : ∀ drawing ∈ drawings, Shows drawing.entry drawing.content
  /-- A file holds the picture of the last text that is saved to it. -/
  last : ∀ drawing ∈ drawings,
    behind.files.entry? (drawing.file (.ofText folder)) =
      (drawings.filter fun other => SharesFile folder other drawing).getLast?.map Drawing.entry
  /-- There is a folder for every file. -/
  reached : ∀ drawing ∈ drawings, behind.reaches (drawing.file (.ofText folder)) = true
  /-- A way that does not leave the folder ends below it, and two of them end at one file exactly
  if they end at the same parts. -/
  below : ∀ drawing ∈ drawings, ∀ inner, IsAt drawing.clip.id inner →
    (pictureFolder folder).IsBelow (drawing.file (.ofText folder)) ∧
      ∀ other ∈ drawings, ∀ others, IsAt other.clip.id others →
        (SharesFile folder drawing other ↔ inner = others)
  /-- A relative way that leaves the folder ends outside of it, unless it names the folder. -/
  outside : ∀ drawing ∈ drawings, (way drawing.clip.id).isAbsolute = false →
    Path.descend [] (way drawing.clip.id).parts = none →
      folderName ∉ (way drawing.clip.id).parts →
        ¬(pictureFolder folder).IsBelow (drawing.file (.ofText folder))
  /-- An absolute way ends at the same file whatever the folder is. -/
  absolute : ∀ drawing ∈ drawings, (way drawing.clip.id).isAbsolute = true →
    drawing.file (.ofText folder) = way drawing.clip.id
  /-- Without slashes in the ids every text has a file of its own in the folder. -/
  apart : (∀ drawing ∈ drawings, '/' ∉ drawing.clip.id.toList) →
    ∀ drawing ∈ drawings,
      (pictureFolder folder).IsBelow (drawing.file (.ofText folder)) ∧
        (∀ other ∈ drawings, SharesFile folder other drawing → other = drawing) ∧
        behind.files.entry? (drawing.file (.ofText folder)) = some drawing.entry

/-- Pictures of texts with distinct ids that are saved one after another. -/
theorem keeps_of_savesAll {painter : Painter α} {canvas : Extent}
    (distinct : (drawings.map fun drawing => drawing.clip.id).Nodup)
    (isSet : ∀ drawing ∈ drawings, drawing.IsSet painter canvas)
    (saves : SavesAll (.ofText folder) session drawings behind) :
    Keeps folder drawings behind where
  shows drawing member := (isSet drawing member).shows
  last drawing member := by
    rw [saves.files_eq]
    exact held_saved_of_mem member
  reached := saves.reached
  below drawing member inner isAt :=
    ⟨isAt.isBelow, fun other _ others otherAt => isAt.sharesFile_iff otherAt⟩
  outside drawing _ relative climbs unnamed := not_isBelow_of_climbs relative climbs unnamed
  absolute drawing _ isAbsolute := by
    rw [Drawing.file, path_eq_join, Path.join, if_pos isAbsolute]
  apart plain drawing member := by
    have isAt := isAt_of_plain (plain drawing member)
    have apart : ∀ other ∈ drawings, SharesFile folder other drawing → other = drawing := by
      intro other otherMem shares
      have sameName := ((isAt_of_plain (plain other otherMem)).sharesFile_iff isAt).mp shares
      exact List.inj_on_of_nodup_map distinct otherMem member
        (fileName_injective (List.singleton_inj.mp sameName))
    refine ⟨isAt.isBelow, apart, ?_⟩
    rw [saves.files_eq]
    exact held_saved_of_apart member apart

/-- Behind a run every text of a template is shown from its file, and the file holds the picture
of the last text with that file, in which that text is drawn.  Which texts have a file together, and which files are in the
folder, is up to where the ids lead from there. -/
theorem keeps_of_convertAll {directory : Path} {value : Value α} {template converted : Template α}
    {canvas : Extent} {quiet : Bool} {drawn : MediaMap α}
    (accepted : Template.read directory value = .ok template)
    (ran : (convertAll canvas (.ofText folder) quiet template).outcome session =
      (.ok (converted, drawn), behind)) :
    converted.clips = template.clips.map (shown (.ofText folder)) ∧
      ∃ drawings : List (Drawing α), Draws session.painter canvas template.clips drawings ∧
        Keeps folder drawings behind := by
  obtain ⟨drawings, draws, rfl, -, saves⟩ := exists_drawings ran
  have distinct := draws.nodup_ids (Template.nodup_ids accepted)
  exact ⟨rfl, drawings, draws, keeps_of_savesAll distinct draws.set saves⟩

/-! ## A text that loses its file -/

/-- Two texts with ids, on a canvas without media. -/
def titlesSource (first second : String) : Value ℚ :=
  .map [
    (.text "clips", .list [
      .map [(.text "id", .text first), (.text "text", .text "one")],
      .map [(.text "id", .text second), (.text "text", .text "three")]]),
    (.text "size", .map [(.text "width", .text "200px"), (.text "height", .text "100px")])]

/-- A clip of a text in the usual font. -/
def titleClip (id content : String) : Clip ℚ :=
  { Clip.plain id "" with source := .text content (Template.fontOf []) }

/-- The template that is read from it. -/
def titlesTemplate (first second : String) : Template ℚ where
  clips := [titleClip first "one", titleClip second "three"]
  size := ⟨.text "200px", .text "100px", none, "black"⟩
  timeline := [(.text "00:00:00", [⟨[first], 0⟩, ⟨[second], 1⟩])]
  preview := .text "00:00:00"
  keypoints := []
  directory := ⟨"/", []⟩

theorem read_titlesSource :
    Template.read ⟨"/", []⟩ (titlesSource "title" "credits") =
      .ok (titlesTemplate "title" "credits") := by
  with_unfolding_all rfl

theorem read_collidingSource :
    Template.read ⟨"/", []⟩ (titlesSource "title" "./title") =
      .ok (titlesTemplate "title" "./title") := by
  with_unfolding_all rfl

/-- The run that draws the texts on an empty disk. -/
def titlesOutcome (first second : String) :
    Result ℚ (Template ℚ × MediaMap ℚ) × Session ℚ :=
  (convertAll ⟨200, 100⟩ (.ofText "out") true (titlesTemplate first second)).outcome
    (Session.ofFiles [])

/-- Two plain ids have files of their own in the folder. -/
theorem titles_keep_apart :
    ∃ converted drawn behind, titlesOutcome "title" "credits" = (.ok (converted, drawn), behind) ∧
      ∃ drawings : List (Drawing ℚ),
        drawings.map Drawing.clip = [titleClip "title" "one", titleClip "credits" "three"] ∧
        ∀ drawing ∈ drawings, (pictureFolder "out").IsBelow (drawing.file (.ofText "out")) ∧
          behind.files.entry? (drawing.file (.ofText "out")) = some drawing.entry ∧
          Shows drawing.entry drawing.content := by
  obtain ⟨⟨converted, drawn⟩, behind, ran⟩ :=
    Program.exists_of_isSome (by decide +kernel :
      (titlesOutcome "title" "credits").1.toOption.isSome = true)
  obtain ⟨-, drawings, draws, keeps⟩ := keeps_of_convertAll read_titlesSource ran
  have clips_eq : drawings.map Drawing.clip =
      [titleClip "title" "one", titleClip "credits" "three"] := draws.clips_eq
  have plain : ∀ drawing ∈ drawings, '/' ∉ drawing.clip.id.toList := by
    intro drawing member
    have listed : drawing.clip ∈ drawings.map Drawing.clip := List.mem_map_of_mem member
    rw [clips_eq, List.mem_pair] at listed
    rcases listed with first | second
    · rw [first]
      decide
    · rw [second]
      decide
  refine ⟨converted, drawn, behind, ran, drawings, clips_eq, fun drawing member => ?_⟩
  obtain ⟨isBelow, -, kept⟩ := keeps.apart plain drawing member
  exact ⟨isBelow, kept, keeps.shows drawing member⟩

/-- With a point in front the same name is another id for the same file: it ends up with the
picture of the second text.  With two points the file is not even in the folder. -/
theorem title_is_overwritten :
    Template.read ⟨"/", []⟩ (titlesSource "title" "./title") =
        .ok (titlesTemplate "title" "./title") ∧
      (∃ converted drawn behind, titlesOutcome "title" "./title" = (.ok (converted, drawn), behind) ∧
        converted.clips.map (fun clip => (clip.id, clip.source.file?)) =
          [("title", some "/work/out/text_assets/title.png"),
            ("./title", some "/work/out/text_assets/title.png")] ∧
        drawn.map (fun picture => (picture.1, picture.2.width)) =
          [("title", 39), ("./title", 49)] ∧
        (behind.files.entry? (.ofText "/work/out/text_assets/title.png")).map
            (fun entry => (entry.media.map MediaFile.size, textsIn entry)) =
          some (some (some (49, 34)), ["three"])) ∧
      ¬(pictureFolder "out").IsBelow (path (.ofText "out") "../title") := by
  refine ⟨read_collidingSource, ?_, not_isBelow_of_climbs rfl rfl (by decide)⟩
  have clips_eq : (titlesOutcome "title" "./title").1.toOption.map
      (fun made => made.1.clips.map fun clip => (clip.id, clip.source.file?)) =
        some [("title", some "/work/out/text_assets/title.png"),
          ("./title", some "/work/out/text_assets/title.png")] := by
    decide +kernel
  have widths_eq : (titlesOutcome "title" "./title").1.toOption.map
      (fun made => made.2.map fun picture => (picture.1, picture.2.width)) =
        some [("title", 39), ("./title", 49)] := by
    decide +kernel
  have held_eq : (Files.entry? (titlesOutcome "title" "./title").2.files
      (.ofText "/work/out/text_assets/title.png")).map
        (fun entry => (entry.media.map MediaFile.size, textsIn entry)) =
          some (some (some (49, 34)), ["three"]) := by
    decide +kernel
  obtain ⟨⟨converted, drawn⟩, behind, ran⟩ :=
    Program.exists_of_isSome (by decide +kernel :
      (titlesOutcome "title" "./title").1.toOption.isSome = true)
  rw [ran] at clips_eq widths_eq held_eq
  exact ⟨converted, drawn, behind, ran, Option.some_inj.mp clips_eq,
    Option.some_inj.mp widths_eq, held_eq⟩

end TextAsset

end Montage
