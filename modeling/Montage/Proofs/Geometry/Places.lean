import Montage.Geometry.Placement
import Montage.Proofs.Result

/-!
# Every clip has its place

Clips are placed one after another, and a place that has been found stays.  Where a clip is
placed depends on those before it only by the size that its shares are of.  So a clip with a
picture and an id of its own has exactly one place in the end, and it would be placed there
again if it were placed behind all of them.
-/

namespace Montage

variable {α : Type}

namespace Clip

/-- A clip has a picture. -/
def IsVisible (clip : Clip α) (infos : MediaMap α) : Prop :=
  ∃ info, infos.info clip.id = .ok info ∧ info.kind ≠ .audio

/-- A clip is in a list, and nothing else there has its id. -/
def IsSole (clip : Clip α) (clips : List (Clip α)) : Prop :=
  ∃ before after, clips = before ++ clip :: after ∧
    ∀ other ∈ before ++ after, other.id ≠ clip.id

variable {clip : Clip α} {clips : List (Clip α)}

theorem IsSole.mem (sole : clip.IsSole clips) : clip ∈ clips := by
  obtain ⟨before, after, rfl, _⟩ := sole
  exact List.mem_append_right before List.mem_cons_self

theorem isSole_of_nodup (distinct : (clips.map Clip.id).Nodup) (member : clip ∈ clips) :
    clip.IsSole clips := by
  obtain ⟨before, after, rfl⟩ := List.append_of_mem member
  refine ⟨before, after, rfl, ?_⟩
  rw [(List.perm_middle.map Clip.id).nodup_iff, List.map_cons, List.nodup_cons] at distinct
  intro other otherMem same
  exact distinct.1 (same ▸ List.mem_map_of_mem otherMem)

end Clip

variable [Scalar α]

namespace Placement

variable {canvas : Extent} {infos : MediaMap α} {placed places : GeometryMap α}
  {before after clips : List (Clip α)} {next : Clip α} {info : MediaInfo α}
  {place : Geometry α} {relativeTo : Value α} {whole : Extent}

/-! ## What shares are of -/

/-- What shares in a layout are of: the canvas, or what is seen of another clip. -/
inductive Refers (canvas : Extent) (places : GeometryMap α) : Value α → Extent → Prop
  | canvas : Refers canvas places .null canvas
  | clip {other : String} {place : Geometry α} (found : places.lookup other = some place) :
      Refers canvas places (.text other) place.size

omit [Scalar α] in
theorem reference_eq_ok_iff {id : String} :
    reference id relativeTo canvas placed = .ok whole ↔
      Refers canvas placed relativeTo whole := by
  constructor
  · intro referred
    cases relativeTo with
    | null =>
        cases referred
        exact .canvas
    | text other =>
        rw [reference] at referred
        split at referred
        next place found =>
          cases referred
          exact .clip found
        next => cases referred
    | _ => cases referred
  · rintro (_ | found)
    · rfl
    · rw [reference, found]

omit [Scalar α] in
/-- A clip is referred to also behind those that are placed later. -/
theorem Refers.append (refers : Refers canvas placed relativeTo whole)
    (later : GeometryMap α) : Refers canvas (placed ++ later) relativeTo whole := by
  cases refers with
  | canvas => exact .canvas
  | clip found => exact .clip (by rw [List.lookup_append, found, Option.some_or])

variable [Analytic α]

/-- A clip is placed by what its shares are of, whatever else is placed. -/
theorem exists_refers_of_clip (located : clip canvas placed next info = .ok place) :
    ∃ whole, Refers canvas placed next.layout.relativeTo.value whole ∧
      ∀ others, Refers canvas others next.layout.relativeTo.value whole →
        clip canvas others next info = .ok place := by
  rw [clip, Result.bind_eq_ok_iff] at located
  obtain ⟨whole, referred, located⟩ := located
  refine ⟨whole, reference_eq_ok_iff.mp referred, ?_⟩
  intro others refers
  rw [clip, reference_eq_ok_iff.mpr refers]
  exact located

/-- A clip is scaled by what its shares are of. -/
theorem exists_scale_of_clip (located : clip canvas placed next info = .ok place) :
    ∃ whole, Refers canvas placed next.layout.relativeTo.value whole ∧
      scale next info whole = .ok place.scale := by
  simp only [clip, Result.bind_eq_ok_iff] at located
  obtain ⟨whole, referred, scale, scaled, rotate, _, located⟩ := located
  have scale_eq : place.scale = scale := by
    split at located
    · simp only [Result.bind_eq_ok_iff, Result.pure_eq_ok_iff] at located
      obtain ⟨_, _, _, _, _, _, _, _, rfl⟩ := located
      rfl
    · simp only [Result.bind_eq_ok_iff, Result.pure_eq_ok_iff] at located
      obtain ⟨_, _, _, _, _, _, rfl⟩ := located
      rfl
  exact ⟨whole, reference_eq_ok_iff.mp referred, scale_eq ▸ scaled⟩

/-! ## One clip after another -/

/-- Clips are placed behind those before them. -/
theorem clipsAfter_append :
    clipsAfter canvas infos placed (before ++ after) =
      clipsAfter canvas infos placed before >>= fun found =>
        clipsAfter canvas infos found after := by
  induction before generalizing placed with
  | nil => rfl
  | cons first rest ih =>
      rw [List.cons_append, clipsAfter, clipsAfter]
      cases infos.info first.id with
      | error fault => rfl
      | ok found =>
          simp only [Result.ok_bind]
          split
          · exact ih
          · cases clip canvas placed first found with
            | error fault => rfl
            | ok geometry =>
                simp only [Result.ok_bind]
                exact ih

theorem clipsAfter_cons (known : infos.info next.id = .ok info) (visible : info.kind ≠ .audio) :
    clipsAfter canvas infos placed (next :: after) =
      clip canvas placed next info >>= fun place =>
        clipsAfter canvas infos (placed ++ [(next.id, place)]) after := by
  rw [clipsAfter, known, Result.ok_bind, if_neg (by simpa using visible)]

/-- Placing clips adds places of those with a picture, in their order. -/
theorem exists_added_of_clipsAfter (placing : clipsAfter canvas infos placed clips = .ok places) :
    ∃ (shown : List (Clip α)) (added : GeometryMap α), places = placed ++ added ∧
      added.map Prod.fst = shown.map Clip.id ∧ shown.Sublist clips ∧
      ∀ clip ∈ shown, clip.IsVisible infos := by
  induction clips generalizing placed with
  | nil =>
      cases placing
      exact ⟨[], [], (List.append_nil places).symm, rfl, .slnil, by simp⟩
  | cons next rest ih =>
      obtain ⟨info, known, placing⟩ := Result.bind_eq_ok_iff.mp placing
      split at placing
      · obtain ⟨shown, added, places_eq, ids_eq, inOrder, visible⟩ := ih placing
        exact ⟨shown, added, places_eq, ids_eq, inOrder.cons _, visible⟩
      · rename_i visibleNext
        obtain ⟨geometry, _, placing⟩ := Result.bind_eq_ok_iff.mp placing
        obtain ⟨shown, added, places_eq, ids_eq, inOrder, visible⟩ := ih placing
        refine ⟨next :: shown, (next.id, geometry) :: added, ?_, ?_, inOrder.cons_cons _, ?_⟩
        · rw [places_eq, List.append_assoc]
          rfl
        · rw [List.map_cons, List.map_cons, ids_eq]
        · exact List.forall_mem_cons.mpr ⟨⟨info, known, by simpa using visibleNext⟩, visible⟩

/-- Whatever has a place is a clip with a picture. -/
theorem exists_clip_of_lookup (placing : clipsAfter canvas infos [] clips = .ok places)
    {id : String} (found : places.lookup id = some place) :
    ∃ clip ∈ clips, clip.id = id ∧ clip.IsVisible infos := by
  obtain ⟨shown, _, rfl, ids_eq, inOrder, visible⟩ := exists_added_of_clipsAfter placing
  have member : id ∈ shown.map Clip.id := by
    obtain ⟨before, after, places_eq, _⟩ := List.lookup_eq_some_iff.mp found
    rw [← ids_eq, places_eq, List.map_append]
    exact List.mem_append_right _ List.mem_cons_self
  obtain ⟨clip, clipMem, rfl⟩ := List.mem_map.mp member
  exact ⟨clip, inOrder.subset clipMem, rfl, visible clip clipMem⟩

/-- A clip with a picture is placed when those before it are. -/
theorem exists_place_of_clipsAfter
    (placing : clipsAfter canvas infos placed (before ++ next :: after) = .ok places)
    (known : infos.info next.id = .ok info) (visible : info.kind ≠ .audio) :
    ∃ found place later, clipsAfter canvas infos placed before = .ok found ∧
      clip canvas found next info = .ok place ∧ places = found ++ (next.id, place) :: later := by
  rw [clipsAfter_append, Result.bind_eq_ok_iff] at placing
  obtain ⟨found, placingBefore, placing⟩ := placing
  rw [clipsAfter_cons known visible, Result.bind_eq_ok_iff] at placing
  obtain ⟨place, located, placing⟩ := placing
  obtain ⟨_, later, places_eq, _⟩ := exists_added_of_clipsAfter placing
  refine ⟨found, place, later, placingBefore, located, ?_⟩
  rw [places_eq, List.append_assoc]
  rfl

/-- A clip with a picture and an id of its own has its place in the end, and would be placed
there again behind all clips. -/
theorem exists_place_of_isSole (placing : clipsAfter canvas infos [] clips = .ok places)
    (sole : next.IsSole clips) (known : infos.info next.id = .ok info)
    (visible : info.kind ≠ .audio) :
    ∃ place, places.lookup next.id = some place ∧ clip canvas places next info = .ok place := by
  obtain ⟨before, after, rfl, others⟩ := sole
  obtain ⟨found, place, later, placingBefore, located, rfl⟩ :=
    exists_place_of_clipsAfter placing known visible
  have unplaced : found.lookup next.id = none := by
    rw [Option.eq_none_iff_forall_ne_some]
    intro other looked
    obtain ⟨clip, clipMem, same, _⟩ := exists_clip_of_lookup placingBefore looked
    exact others clip (List.mem_append_left after clipMem) same
  obtain ⟨whole, refers, again⟩ := exists_refers_of_clip located
  refine ⟨place, ?_, again _ (refers.append _)⟩
  rw [List.lookup_append, unplaced, Option.none_or, List.lookup_cons_self]

end Placement

variable [Analytic α] {template : Template α} {canvas : Extent} {infos : MediaMap α}
  {places : GeometryMap α}

/-- Every clip with a picture has a place, where it is scaled by what its shares are of. -/
theorem Template.exists_place_of_geometry (distinct : (template.clips.map Clip.id).Nodup)
    (located : template.geometry canvas infos = .ok places) {clip : Clip α}
    (member : clip ∈ template.clips) {info : MediaInfo α}
    (known : infos.info clip.id = .ok info) (visible : info.kind ≠ .audio) :
    ∃ place whole, places.lookup clip.id = some place ∧
      Placement.Refers canvas places clip.layout.relativeTo.value whole ∧
      Placement.scale clip info whole = .ok place.scale := by
  obtain ⟨place, looked, placed⟩ := Placement.exists_place_of_isSole located
    (Clip.isSole_of_nodup distinct member) known visible
  obtain ⟨whole, refers, scaled⟩ := Placement.exists_scale_of_clip placed
  exact ⟨place, whole, looked, refers, scaled⟩

end Montage
