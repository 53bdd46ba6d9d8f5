import Montage.Proofs.Geometry.Places
import Montage.Proofs.Zoompan.Containment

/-!
# What the place of a clip depends on

A clip is placed by itself, by what is known about its source, and by the size of the clip
that its shares are of, which is one before it.  Following these references from clip to clip
ends at one whose shares are of the canvas.  So two templates agree on the place of a clip if
they agree on all clips on its way there, whatever else they contain and in whatever order.
-/

namespace Montage

variable {α : Type}

namespace Clip

/-- The shares in the layout of a clip are of what is seen of another one. -/
def RefersTo (clip other : Clip α) : Prop :=
  clip.layout.relativeTo.value = .text other.id

/-- A clip of a list is reached from another one by following references. -/
def Reaches (clips : List (Clip α)) : Clip α → Clip α → Prop :=
  Relation.ReflTransGen fun clip other => other ∈ clips ∧ clip.RefersTo other

/-- Every clip that is reached from a clip, itself included, is in both lists, with an id of
its own as all clips of a template have it, and the same is known about its source. -/
def IsUnchanged (clip : Clip α) (first second : List (Clip α))
    (firstInfos secondInfos : MediaMap α) : Prop :=
  ∀ other, Reaches first clip other → other.IsSole first ∧ other.IsSole second ∧
    firstInfos.info other.id = secondInfos.info other.id

/-- References lead from a clip to the canvas.  On the way every clip refers to one with a
picture that stands before it, and the first of them before it stands in the given list. -/
inductive IsGrounded (infos : MediaMap α) : List (Clip α) → Clip α → Prop
  | canvas {before : List (Clip α)} {clip : Clip α}
      (free : clip.layout.relativeTo.value = .null) : IsGrounded infos before clip
  | clip {before between : List (Clip α)} {clip other : Clip α} (refers : clip.RefersTo other)
      (visible : other.IsVisible infos) (grounded : IsGrounded infos before other) :
      IsGrounded infos (before ++ other :: between) clip

variable {clip other : Clip α} {clips first second : List (Clip α)}
  {infos firstInfos secondInfos : MediaMap α}

theorem IsSole.eq_of_id (sole : clip.IsSole clips) (member : other ∈ clips)
    (same : other.id = clip.id) : other = clip := by
  obtain ⟨before, after, rfl, others⟩ := sole
  by_contra different
  have apart : other ∈ before ++ after := by simpa [different] using member
  exact others other apart same

theorem IsUnchanged.self (unchanged : clip.IsUnchanged first second firstInfos secondInfos) :
    clip.IsSole first ∧ clip.IsSole second ∧
      firstInfos.info clip.id = secondInfos.info clip.id :=
  unchanged clip .refl

theorem IsUnchanged.of_refersTo
    (unchanged : clip.IsUnchanged first second firstInfos secondInfos) (member : other ∈ first)
    (refers : clip.RefersTo other) : other.IsUnchanged first second firstInfos secondInfos :=
  fun last reached => unchanged last (.head ⟨member, refers⟩ reached)

end Clip

variable [Scalar α] [Analytic α]

namespace Placement

variable {canvas : Extent} {infos firstInfos secondInfos : MediaMap α}
  {placed places firstPlaces secondPlaces : GeometryMap α}
  {before after first second : List (Clip α)} {next : Clip α}

/-! ## One template -/

/-- What a clip refers to has been placed before it. -/
theorem isGrounded_of_clipsAfter
    (placing : clipsAfter canvas infos [] (before ++ next :: after) = .ok places)
    (visible : next.IsVisible infos) : next.IsGrounded infos before := by
  induction size : before.length using Nat.strong_induction_on
    generalizing before next after places with
  | _ length ih =>
      obtain ⟨info, known, pictured⟩ := visible
      obtain ⟨found, place, later, placingBefore, located, _⟩ :=
        exists_place_of_clipsAfter placing known pictured
      obtain ⟨whole, refers, _⟩ := exists_refers_of_clip located
      generalize named : next.layout.relativeTo.value = relativeTo at refers
      cases refers with
      | canvas => exact .canvas named
      | clip looked =>
          -- the clip that is referred to ends a shorter list, which has been placed as well
          obtain ⟨other, member, rfl, visible⟩ := exists_clip_of_lookup placingBefore looked
          obtain ⟨start, between, rfl⟩ := List.append_of_mem member
          have shorter : start.length < length := by
            rw [← size, List.length_append, List.length_cons]
            omega
          exact .clip named visible (ih start.length shorter placingBefore visible rfl)

/-- A clip that refers to no clip with a picture before it cannot be placed. -/
theorem clipsAfter_of_misplaced {name : String} (visible : next.IsVisible infos)
    (refers : next.layout.relativeTo.value = .text name)
    (misplaced : ∀ other ∈ before, other.IsVisible infos → other.id ≠ name)
    (placing : clipsAfter canvas infos [] before = .ok placed) :
    clipsAfter canvas infos [] (before ++ next :: after) =
      refuse (.layoutReference next.id (.text name)) := by
  obtain ⟨info, known, pictured⟩ := visible
  have unplaced : placed.lookup name = none := by
    rw [Option.eq_none_iff_forall_ne_some]
    intro place looked
    obtain ⟨other, member, same, visible⟩ := exists_clip_of_lookup placing looked
    exact misplaced other member visible same
  rw [clipsAfter_append, placing, Result.ok_bind, clipsAfter_cons known pictured, clip, refers,
    reference, unplaced]
  rfl

/-! ## Two templates -/

/-- Two runs place a clip alike if its shares are of the same size in both. -/
theorem exists_place_of_refers
    (firstPlacing : clipsAfter canvas firstInfos [] first = .ok firstPlaces)
    (secondPlacing : clipsAfter canvas secondInfos [] second = .ok secondPlaces)
    (unchanged : next.IsUnchanged first second firstInfos secondInfos)
    (visible : next.IsVisible firstInfos)
    (refers : ∀ whole, Refers canvas firstPlaces next.layout.relativeTo.value whole →
      Refers canvas secondPlaces next.layout.relativeTo.value whole) :
    ∃ place, firstPlaces.lookup next.id = some place ∧
      secondPlaces.lookup next.id = some place := by
  obtain ⟨firstSole, secondSole, same⟩ := unchanged.self
  obtain ⟨info, known, pictured⟩ := visible
  obtain ⟨place, looked, located⟩ :=
    exists_place_of_isSole firstPlacing firstSole known pictured
  obtain ⟨other, otherLooked, otherLocated⟩ :=
    exists_place_of_isSole secondPlacing secondSole (same ▸ known) pictured
  obtain ⟨whole, referred, again⟩ := exists_refers_of_clip located
  rw [again _ (refers whole referred)] at otherLocated
  cases otherLocated
  exact ⟨place, looked, otherLooked⟩

/-- Two runs place a clip alike if they agree on all clips on its way to the canvas. -/
theorem exists_place_of_isGrounded
    (firstPlacing : clipsAfter canvas firstInfos [] first = .ok firstPlaces)
    (secondPlacing : clipsAfter canvas secondInfos [] second = .ok secondPlaces)
    (grounded : next.IsGrounded firstInfos before) (inFirst : before ⊆ first)
    (visible : next.IsVisible firstInfos)
    (unchanged : next.IsUnchanged first second firstInfos secondInfos) :
    ∃ place, firstPlaces.lookup next.id = some place ∧
      secondPlaces.lookup next.id = some place := by
  induction grounded with
  | canvas free =>
      apply exists_place_of_refers firstPlacing secondPlacing unchanged visible
      intro whole referred
      rw [free] at referred ⊢
      cases referred
      exact .canvas
  | @clip before between next other refers otherVisible _ ih =>
      rw [List.append_subset, List.cons_subset] at inFirst
      obtain ⟨place, looked, otherLooked⟩ := ih inFirst.1 otherVisible
        (unchanged.of_refersTo inFirst.2.1 refers)
      apply exists_place_of_refers firstPlacing secondPlacing unchanged visible
      intro whole referred
      rw [refers] at referred ⊢
      cases referred with
      | clip found =>
          cases found.symm.trans looked
          exact .clip otherLooked

/-- A clip without a picture has no place. -/
theorem lookup_eq_none_of_isSole (placing : clipsAfter canvas infos [] first = .ok places)
    (sole : next.IsSole first) (invisible : ¬next.IsVisible infos) :
    places.lookup next.id = none := by
  rw [Option.eq_none_iff_forall_ne_some]
  intro place looked
  obtain ⟨other, member, same, visible⟩ := exists_clip_of_lookup placing looked
  rw [sole.eq_of_id member same] at visible
  exact invisible visible

end Placement

open Placement

/-- The place of a clip depends only on the clips that are reached from it and on their
sources.  There are finitely many of them, for each one refers to a clip with a picture before
it: a template in which a clip refers to itself, to one behind it, to one without a picture or
to none is refused. -/
theorem Template.geometry_locality (canvas : Extent) :
    (∀ (first second : Template α) (firstInfos secondInfos : MediaMap α)
        (firstPlaces secondPlaces : GeometryMap α),
      first.geometry canvas firstInfos = .ok firstPlaces →
      second.geometry canvas secondInfos = .ok secondPlaces →
      ∀ clip : Clip α, clip.IsUnchanged first.clips second.clips firstInfos secondInfos →
        secondPlaces.lookup clip.id = firstPlaces.lookup clip.id ∧
          ((firstPlaces.lookup clip.id).isSome ↔ clip.IsVisible firstInfos)) ∧
    (∀ (template : Template α) (infos : MediaMap α) (before after : List (Clip α))
        (clip : Clip α), template.clips = before ++ clip :: after → clip.IsVisible infos →
      (∀ places, template.geometry canvas infos = .ok places → clip.IsGrounded infos before) ∧
      ∀ name, clip.layout.relativeTo.value = .text name →
        (∀ other ∈ before, other.IsVisible infos → other.id ≠ name) →
        (∃ fault, template.geometry canvas infos = .error fault) ∧
          ∀ placed, clipsAfter canvas infos [] before = .ok placed →
            template.geometry canvas infos = refuse (.layoutReference clip.id (.text name))) := by
  constructor
  · intro first second firstInfos secondInfos firstPlaces secondPlaces firstLocated
      secondLocated clip unchanged
    obtain ⟨firstSole, secondSole, same⟩ := unchanged.self
    by_cases visible : clip.IsVisible firstInfos
    · obtain ⟨before, after, split, _⟩ := id firstSole
      have grounded : clip.IsGrounded firstInfos before := by
        rw [Template.geometry, split] at firstLocated
        exact isGrounded_of_clipsAfter firstLocated visible
      have inFirst : before ⊆ first.clips := by
        rw [split]
        exact List.subset_append_left _ _
      obtain ⟨place, looked, otherLooked⟩ :=
        exists_place_of_isGrounded firstLocated secondLocated grounded inFirst visible unchanged
      rw [looked, otherLooked]
      simp [visible]
    · have secondInvisible : ¬clip.IsVisible secondInfos := by
        rwa [Clip.IsVisible, ← same]
      rw [lookup_eq_none_of_isSole firstLocated firstSole visible,
        lookup_eq_none_of_isSole secondLocated secondSole secondInvisible]
      simp [visible]
  · intro template infos before after clip split visible
    rw [Template.geometry, split]
    constructor
    · intro places located
      exact isGrounded_of_clipsAfter located visible
    · intro name refers misplaced
      constructor
      · cases placing : clipsAfter canvas infos [] before with
        | error fault => exact ⟨fault, by rw [clipsAfter_append, placing, Result.error_bind]⟩
        | ok placed => exact ⟨_, clipsAfter_of_misplaced visible refers misplaced placing⟩
      · intro placed placing
        exact clipsAfter_of_misplaced visible refers misplaced placing

/-! ## Three clips on one another -/

def stageClip : Clip ℚ :=
  { Clip.plain "stage" "stage.mp4" with
    layout := ⟨some (.text "10px"), none, some (.text "50%"), none, none⟩ }

def insetClip : Clip ℚ :=
  { Clip.plain "inset" "inset.mp4" with
    layout := ⟨none, none, some (.text "50%"), none, some (.text "stage")⟩ }

def badgeClip : Clip ℚ :=
  { Clip.plain "badge" "badge.mp4" with
    layout := ⟨some (.text "10%"), none, some (.text "50%"), none, some (.text "inset")⟩ }

/-- The three clips behind one that is dropped later, with sound among them. -/
def draftTemplate : Template ℚ :=
  { Command.panningTemplate with
    clips := [.plain "old" "old.mp4", stageClip, .plain "music" "music.mp3", insetClip,
      badgeClip] }

/-- The three clips among others, of which one covers the inset. -/
def finalTemplate : Template ℚ :=
  { Command.panningTemplate with
    clips := [stageClip, insetClip,
      { Clip.plain "cover" "cover.mp4" with
        layout := ⟨none, none, some (.text "100%"), none, some (.text "inset")⟩ },
      badgeClip, .plain "music" "music.mp3"] }

/-- What is known about sources with a picture of the given size. -/
def picturesOf (width height : ℚ) (ids : List String) : MediaMap ℚ :=
  ids.map fun id => (id, ⟨width, height, 30, some 10, some (width / height), false, .video⟩)

def soundOf (id : String) : MediaMap ℚ :=
  [(id, ⟨0, 0, 0, some 10, none, true, .audio⟩)]

def draftInfos : MediaMap ℚ :=
  soundOf "music" ++ picturesOf 30 20 ["old"] ++ picturesOf 100 100 ["stage", "inset", "badge"]

def finalInfos : MediaMap ℚ :=
  picturesOf 100 100 ["stage", "inset", "badge"] ++ picturesOf 40 30 ["cover"] ++ soundOf "music"

theorem isUnchanged_badgeClip :
    badgeClip.IsUnchanged draftTemplate.clips finalTemplate.clips draftInfos finalInfos := by
  have draftSole {clip : Clip ℚ} (member : clip ∈ draftTemplate.clips) :=
    Clip.isSole_of_nodup (show (draftTemplate.clips.map Clip.id).Nodup by decide) member
  have finalSole {clip : Clip ℚ} (member : clip ∈ finalTemplate.clips) :=
    Clip.isSole_of_nodup (show (finalTemplate.clips.map Clip.id).Nodup by decide) member
  intro other reached
  have listed : other ∈ [badgeClip, insetClip, stageClip] := by
    induction reached with
    | refl => exact List.mem_cons_self
    | @tail clip other _ step ih =>
        obtain ⟨member, refers⟩ := step
        simp only [List.mem_cons, List.not_mem_nil, or_false] at ih
        rcases ih with rfl | rfl | rfl
        · have sole := draftSole (show insetClip ∈ _ by simp [draftTemplate])
          simp [sole.eq_of_id member (Value.text.inj refers).symm]
        · have sole := draftSole (show stageClip ∈ _ by simp [draftTemplate])
          simp [sole.eq_of_id member (Value.text.inj refers).symm]
        · cases refers
  simp only [List.mem_cons, List.not_mem_nil, or_false] at listed
  rcases listed with rfl | rfl | rfl
  · exact ⟨draftSole (by simp [draftTemplate]), finalSole (by simp [finalTemplate]), rfl⟩
  · exact ⟨draftSole (by simp [draftTemplate]), finalSole (by simp [finalTemplate]), rfl⟩
  · exact ⟨draftSole (by simp [draftTemplate]), finalSole (by simp [finalTemplate]), rfl⟩

/-- The third clip stays where it is, a quarter of the size of the first. -/
theorem geometry_draftTemplate :
    ∃ draftPlaces finalPlaces place,
      @Template.geometry ℚ _ Command.unturned draftTemplate ⟨200, 100⟩ draftInfos =
        .ok draftPlaces ∧
      @Template.geometry ℚ _ Command.unturned finalTemplate ⟨200, 100⟩ finalInfos =
        .ok finalPlaces ∧
      draftPlaces.lookup "badge" = some place ∧ place.size = ⟨25, 25⟩ ∧
      finalPlaces.lookup "badge" = some place := by
  let _ := Command.unturned
  have draftLocated : draftTemplate.geometry ⟨200, 100⟩ draftInfos =
      .ok [("old", ⟨0, 0, ⟨30, 20⟩, none, none⟩), ("stage", ⟨10, 0, ⟨100, 100⟩, none, none⟩),
        ("inset", ⟨0, 0, ⟨50, 50⟩, none, none⟩), ("badge", ⟨5, 0, ⟨25, 25⟩, none, none⟩)] := by
    rw [← Result.toOption_eq_some_iff]
    decide +kernel
  have finalLocated : finalTemplate.geometry ⟨200, 100⟩ finalInfos =
      .ok [("stage", ⟨10, 0, ⟨100, 100⟩, none, none⟩),
        ("inset", ⟨0, 0, ⟨50, 50⟩, none, none⟩), ("cover", ⟨0, 0, ⟨50, 37⟩, none, none⟩),
        ("badge", ⟨5, 0, ⟨25, 25⟩, none, none⟩)] := by
    rw [← Result.toOption_eq_some_iff]
    decide +kernel
  obtain ⟨same, _⟩ := (Template.geometry_locality ⟨200, 100⟩).1 draftTemplate finalTemplate
    draftInfos finalInfos _ _ draftLocated finalLocated badgeClip isUnchanged_badgeClip
  exact ⟨_, _, ⟨5, 0, ⟨25, 25⟩, none, none⟩, draftLocated, finalLocated, rfl, rfl, same⟩

end Montage
