import Montage.Proofs.Zoompan.Offset

/-!
# What segments carry from one keyframe to the next

A keyframe takes the window from the state in which the keyframes before it left it.  The
theorem of one keyframe says where its segment begins, how far it shifts the window along
each axis, and that the formula of an axis that moves leads from the one place to the other.
Put together along the keyframes in their order, this gives the segments of a clip: they
follow each other, shifts add up, and nothing depends on the order in which keyframes with
different times are given.
-/

namespace Montage.Zoompan

variable {axis : Axis} {framerate time : ℚ} {id : String} {scope : Scope ℚ} {clip : Clip ℚ}
  {geometry : Geometry ℚ} {state : State ℚ} {keyframe : Keyframe ℚ}
  {keyframes others : List (Keyframe ℚ)} {ordered : List (ℚ × Keyframe ℚ)}
  {segment : Segment ℚ} {segments : List (Segment ℚ)}

/-- How far a keyframe shifts the window along an axis, which is not at all if it sets no
shift. -/
def distance (geometry : Geometry ℚ) (axis : Axis) (keyframe : Keyframe ℚ) : Result ℚ ℚ :=
  if (shift keyframe axis).isNull then .ok 0
  else Length.within (geometry.frame.along axis) (shift keyframe axis) Length.required

/-- A segment goes on from a state: it begins at the time of the state, with its window and
its zoom, and does not end before. -/
structure Continues (state : State ℚ) (segment : Segment ℚ) : Prop where
  startAt_eq : segment.startAt = state.time
  ordered : state.time ≤ segment.endAt
  start_eq (axis : Axis) : (segment.along axis).start = state.along axis
  startZoom_eq : segment.startZoom = state.zoom

/-- A segment leads the window along an axis.  There is a formula exactly if there is a
destination.  The destination keeps the window in the frame.  The formula reaches it at the
frame in which the segment ends, and in the frame in which the segment begins it is where
the axis starts, unless the segment has no frames. -/
structure Leads (geometry : Geometry ℚ) (framerate : ℚ) (segment : Segment ℚ) (axis : Axis) :
    Prop where
  isSome_formula : (segment.along axis).formula.isSome = (segment.along axis).destination.isSome
  within : ∀ destination ∈ (segment.along axis).destination,
    ∃ window, geometry.crop = some window ∧ 0 ≤ destination ∧
      destination ≤ ((geometry.frame.along axis - window.size.along axis : ℤ) : ℚ)
  evaluate_endAt : ∀ formula ∈ (segment.along axis).formula,
    (segment.along axis).destination = some (formula.evaluate (segment.endAt * framerate))
  evaluate_startAt : ∀ formula ∈ (segment.along axis).formula,
    (segment.endAt - segment.startAt) * framerate ≠ 0 →
      formula.evaluate (segment.startAt * framerate) = (segment.along axis).start

/-- The segments of keyframes, from a state on. -/
structure Carries (geometry : Geometry ℚ) (framerate : ℚ) (state : State ℚ)
    (ordered : List (ℚ × Keyframe ℚ)) (segments : List (Segment ℚ)) : Prop where
  /-- There is a segment for each keyframe, and it ends at its time. -/
  map_endAt : segments.map Segment.endAt = ordered.map Prod.fst
  first : ∀ segment ∈ segments.head?, Continues state segment
  isChain : segments.IsChain fun earlier later => Continues (after earlier) later
  leads : ∀ segment ∈ segments, ∀ axis, Leads geometry framerate segment axis
  /-- An axis moves exactly up to the keyframes that shift it. -/
  map_moves (axis : Axis) : segments.map (fun segment => (segment.along axis).moves) =
    ordered.map fun entry => !(shift entry.2 axis).isNull
  /-- Behind a keyframe the window is where all the shifts so far have taken it. -/
  final_eq (axis : Axis) : ∃ distances,
    ordered.mapM (fun entry => distance geometry axis entry.2) = .ok distances ∧
      ∀ index segment, segments[index]? = some segment →
        (segment.along axis).final = state.along axis + (distances.take (index + 1)).sum

/-! ## One keyframe -/

/-- What a segment up to a keyframe makes of one axis. -/
structure Shifts (geometry : Geometry ℚ) (framerate : ℚ) (state : State ℚ)
    (keyframe : Keyframe ℚ) (segment : Segment ℚ) (axis : Axis) : Prop where
  start_eq : (segment.along axis).start = state.along axis
  leads : Leads geometry framerate segment axis
  moves_eq : (segment.along axis).moves = !(shift keyframe axis).isNull
  final_eq : ∃ moved, distance geometry axis keyframe = .ok moved ∧
    (segment.along axis).final = state.along axis + moved

theorem shifts_of_motion (startAt_eq : segment.startAt = state.time)
    (resolved : motion id geometry framerate state segment.endAt keyframe axis =
      .ok (segment.along axis)) :
    Shifts geometry framerate state keyframe segment axis := by
  rcases motion_inversion resolved with
    ⟨unshifted, rests⟩ | ⟨shifted, window, moved, cropped, read, nonneg, within, moves⟩
  · constructor
    · rw [rests, Motion.resting]
    · constructor <;> simp [rests, Motion.resting]
    · simp [rests, unshifted]
    · exact ⟨0, by simp [distance, unshifted], by simp [rests]⟩
  · constructor
    · rw [moves, Motion.moving]
    · constructor
      · simp [moves, Motion.moving]
      · simp only [moves, Motion.moving, Option.mem_some_iff, forall_eq']
        exact ⟨window, cropped, nonneg, within⟩
      · simp only [moves, Motion.moving, Option.mem_some_iff, forall_eq',
          LinearFormula.evaluate_between_endAt]
      · simp only [moves, Motion.moving, Option.mem_some_iff, forall_eq', startAt_eq]
        exact LinearFormula.evaluate_between_startAt
    · simp [moves, shifted]
    · exact ⟨moved, by simpa [distance, shifted] using read, by simp [moves]⟩

/-- What the segment up to a keyframe makes of the state before it. -/
structure Step (geometry : Geometry ℚ) (framerate : ℚ) (state : State ℚ)
    (entry : ℚ × Keyframe ℚ) (segment : Segment ℚ) : Prop where
  continues : Continues state segment
  endAt_eq : segment.endAt = entry.1
  shifts (axis : Axis) : Shifts geometry framerate state entry.2 segment axis

/-- A keyframe takes one step from a state that is not later. -/
theorem step_of_segment (begun : state.time ≤ time)
    (resolved : Zoompan.segment id geometry framerate state time keyframe = .ok segment) :
    Step geometry framerate state (time, keyframe) segment := by
  obtain ⟨_, startAt_eq, endAt_eq, startZoom_eq, moved⟩ := segment_cases resolved
  have shifts (axis : Axis) : Shifts geometry framerate state keyframe segment axis := by
    apply shifts_of_motion startAt_eq
    rw [endAt_eq]
    exact moved axis
  constructor
  · constructor
    · exact startAt_eq
    · exact begun.trans_eq endAt_eq.symm
    · exact fun axis => (shifts axis).start_eq
    · exact startZoom_eq
  · exact endAt_eq
  · exact shifts

/-! ## All keyframes -/

/-- A step in front of a run is a run. -/
theorem Carries.cons {entry : ℚ × Keyframe ℚ} (step : Step geometry framerate state entry segment)
    (run : Carries geometry framerate (after segment) ordered segments) :
    Carries geometry framerate state (entry :: ordered) (segment :: segments) where
  map_endAt := by rw [List.map_cons, List.map_cons, step.endAt_eq, run.map_endAt]
  first := by simpa using step.continues
  isChain := List.isChain_cons.mpr ⟨run.first, run.isChain⟩
  leads := List.forall_mem_cons.mpr ⟨fun axis => (step.shifts axis).leads, run.leads⟩
  map_moves axis := by
    rw [List.map_cons, List.map_cons, (step.shifts axis).moves_eq, run.map_moves axis]
  final_eq axis := by
    obtain ⟨moved, read, final_eq⟩ := (step.shifts axis).final_eq
    obtain ⟨distances, readRest, final_eq_rest⟩ := run.final_eq axis
    refine ⟨moved :: distances, ?_, ?_⟩
    · simp [List.mapM_cons, read, readRest, Result.ok_bind]
    · intro index found member
      cases index with
      | zero =>
          cases Option.some.inj member
          simpa using final_eq
      | succ index =>
          rw [final_eq_rest index found (by simpa using member), along_after, final_eq]
          simp [add_assoc]

theorem segmentsFrom_carries
    (pairwise : ordered.Pairwise fun earlier later => earlier.1 ≤ later.1)
    (begun : ∀ entry ∈ ordered, 0 ≤ entry.1 → state.time ≤ entry.1)
    (made : segmentsFrom id geometry framerate state ordered = .ok segments) :
    Carries geometry framerate state ordered segments := by
  apply segmentsFrom_induction (motive := Carries geometry framerate) _ _ pairwise begun made
  · intro state
    constructor <;> simp
  · intro state time keyframe rest found later order resolved run
    exact .cons (step_of_segment order resolved) run

/-! ## The order of keyframes -/

/-- Keyframes with their times in the order of these. -/
structure Orders (scope : Scope ℚ) (keyframes : List (Keyframe ℚ))
    (ordered : List (ℚ × Keyframe ℚ)) : Prop where
  perm : (ordered.map Prod.snd).Perm keyframes
  resolved : ∀ entry ∈ ordered, Duration.ofValue scope entry.2.time = .ok entry.1
  pairwise : ordered.Pairwise fun earlier later => earlier.1 ≤ later.1

/-- Sorting keeps the keyframes with their times. -/
theorem exists_perm_of_timed (found : timed scope keyframes = .ok ordered) :
    ∃ unsorted, keyframes.mapM (fun keyframe => do
        return (← Duration.ofValue scope keyframe.time, keyframe)) = .ok unsorted ∧
      ordered.Perm unsorted := by
  simp only [timed, Result.bind_eq_ok_iff, Result.pure_eq_ok_iff] at found ⊢
  obtain ⟨unsorted, mapped, rfl⟩ := found
  exact ⟨unsorted, mapped, List.mergeSort_perm unsorted _⟩

theorem orders_of_timed (found : timed scope keyframes = .ok ordered) :
    Orders scope keyframes ordered := by
  obtain ⟨unsorted, mapped, sorted⟩ := exists_perm_of_timed found
  have matched : List.Forall₂
      (fun keyframe entry => Duration.ofValue scope keyframe.time = .ok entry.1 ∧
        keyframe = entry.2) keyframes unsorted := by
    refine (Result.mapM_eq_ok_iff.mp mapped).imp ?_
    intro keyframe entry made
    obtain ⟨time, read, same⟩ := Result.bind_eq_ok_iff.mp made
    cases Result.pure_eq_ok_iff.mp same
    exact ⟨read, rfl⟩
  constructor
  · have kept : keyframes = unsorted.map Prod.snd := by
      rw [← List.forall₂_eq_eq_eq, List.forall₂_map_right_iff]
      exact matched.imp fun _ _ made => made.2
    rw [kept]
    exact sorted.map Prod.snd
  · intro entry member
    obtain ⟨keyframe, _, read, rfl⟩ :=
      Result.exists_of_forall₂_of_mem matched.flip (sorted.mem_iff.mp member)
    exact read
  · exact timed_pairwise found

/-- If keyframes are at different times, so are the entries of their order. -/
theorem Orders.nodup_times (orders : Orders scope keyframes ordered)
    (distinct : (keyframes.map fun keyframe => Duration.ofValue scope keyframe.time).Nodup) :
    (ordered.map Prod.fst).Nodup := by
  have times : (ordered.map Prod.snd).map (fun keyframe => Duration.ofValue scope keyframe.time) =
      (ordered.map Prod.fst).map Except.ok := by
    rw [List.map_map, List.map_map]
    exact List.map_congr_left orders.resolved
  apply List.Nodup.of_map Except.ok
  rw [← times]
  exact (orders.perm.map _).nodup_iff.mpr distinct

/-- The order of keyframes at different times is the same whichever way they are given. -/
theorem timed_of_perm (perm : others.Perm keyframes)
    (distinct : (keyframes.map fun keyframe => Duration.ofValue scope keyframe.time).Nodup)
    (found : timed scope keyframes = .ok ordered) : timed scope others = .ok ordered := by
  obtain ⟨unsorted, mapped, sorted⟩ := exists_perm_of_timed found
  obtain ⟨otherUnsorted, otherMapped, unsortedPerm⟩ := Result.exists_mapM_of_perm perm mapped
  obtain ⟨otherOrdered, otherFound⟩ : ∃ otherOrdered, timed scope others = .ok otherOrdered := by
    rw [timed, otherMapped]
    exact ⟨_, rfl⟩
  obtain ⟨_, again, otherSorted⟩ := exists_perm_of_timed otherFound
  cases otherMapped.symm.trans again
  have orderedPerm : otherOrdered.Perm ordered :=
    otherSorted.trans (unsortedPerm.trans sorted.symm)
  have nodup := (orders_of_timed found).nodup_times distinct
  rw [otherFound]
  congr 1
  apply orderedPerm.eq_of_pairwise ?_ (timed_pairwise otherFound) (timed_pairwise found)
  intro one other oneMem otherMem oneLe otherLe
  exact List.inj_on_of_nodup_map nodup (orderedPerm.mem_iff.mp oneMem) otherMem
    (le_antisymm oneLe otherLe)

/-- The segments of a clip begin at zero in the corner of the frame without a zoom, follow
each other in the order of the keyframes and carry the state of the window along.  Keyframes
at different times may be given in any order. -/
theorem segments_carry
    (made : Zoompan.segments scope clip geometry framerate = .ok segments) :
    (∃ ordered, Orders scope clip.zoompan ordered ∧
      Carries geometry framerate .initial ordered segments) ∧
    ((clip.zoompan.map fun keyframe => Duration.ofValue scope keyframe.time).Nodup →
      ∀ others : List (Keyframe ℚ), others.Perm clip.zoompan →
        Zoompan.segments scope { clip with zoompan := others } geometry framerate =
          .ok segments) := by
  obtain ⟨ordered, found, madeFrom⟩ := segments_eq_ok_iff.mp made
  have orders := orders_of_timed found
  constructor
  · exact ⟨ordered, orders, segmentsFrom_carries orders.pairwise (fun _ _ nonneg => nonneg)
      madeFrom⟩
  · intro distinct others perm
    exact segments_eq_ok_iff.mpr ⟨ordered, timed_of_perm perm distinct found, madeFrom⟩

/-! ## A tour through a frame -/

/-- A clip whose window jumps at the beginning, then grows, and then moves along both
axes. -/
def touringClip : Clip ℚ :=
  { Clip.plain "touring" "touring.mp4" with
    crop := ⟨none, some (.text "50%"), none, some (.text "40px")⟩
    zoompan :=
      [⟨.number 0, .text "20px", .null, .null⟩, ⟨.number 1, .null, .null, .text "150%"⟩,
        ⟨.number 3, .text "10%", .text "30px", .null⟩] }

/-- Where the clip stands if its source has a hundred pixels each way. -/
def touringPlace : Geometry ℚ :=
  ⟨0, 0, ⟨100, 100⟩, none, some ⟨0, 0, 50, 60⟩⟩

/-- The three segments of the clip. -/
def touringSegments : List (Segment ℚ) :=
  [⟨0, 0, .moving 0 0 10 0 20, .resting 0, 1, none⟩,
    ⟨0, 1, .resting 20, .resting 0, 1, some (3 / 2)⟩,
    ⟨1, 3, .moving 1 3 10 20 30, .moving 1 3 10 0 30, 3 / 2, none⟩]

theorem segments_touringClip :
    Zoompan.segments ⟨[], []⟩ touringClip touringPlace 10 = .ok touringSegments := by
  have ordered : ((touringClip.zoompan.zip [(0 : ℚ), 1, 3]).map Prod.swap).Pairwise
      fun earlier later => !Scalar.lt later.1 earlier.1 := by
    decide +kernel
  have resolved : timed ⟨[], []⟩ touringClip.zoompan =
      .ok ((touringClip.zoompan.zip [0, 1, 3]).map Prod.swap) := by
    rw [← List.mergeSort_of_pairwise ordered]
    rfl
  refine segments_eq_ok_iff.mpr ⟨_, resolved, ?_⟩
  rw [← Result.toOption_eq_some_iff]
  decide +kernel

/-- The keyframes of the tour may as well be given from the last to the first. -/
theorem segments_touringClip_reversed :
    (∃ ordered, Orders ⟨[], []⟩ touringClip.zoompan ordered ∧
      Carries touringPlace 10 .initial ordered touringSegments) ∧
    Zoompan.segments ⟨[], []⟩ { touringClip with zoompan := touringClip.zoompan.reverse }
      touringPlace 10 = .ok touringSegments := by
  have distinct : (touringClip.zoompan.map fun keyframe =>
      Duration.ofValue (⟨[], []⟩ : Scope ℚ) keyframe.time).Nodup := by
    change List.Nodup [(.ok 0 : Result ℚ ℚ), .ok 1, .ok 3]
    simp
  obtain ⟨carried, reordered⟩ := segments_carry segments_touringClip
  constructor
  · exact carried
  · exact reordered distinct _ (List.reverse_perm _)

end Montage.Zoompan
