import Montage.Proofs.Rational
import Montage.Zoompan.Keyframes

/-!
# Segments are a chain

The segments made of keyframes follow each other without a gap, and along each axis one
begins where the one before it left the window.  The window never leaves the room that
it has along the axis.  Everything that is proved of pans uses only this chain.
-/

namespace Montage

/-- How far the window of a clip can move along an axis. -/
def Geometry.room {α : Type} (geometry : Geometry α) (axis : Axis) : ℤ :=
  match geometry.crop with
  | some window => geometry.frame.along axis - window.size.along axis
  | none => 0

namespace Zoompan

variable {axis : Axis} {framerate room time position : ℚ} {segments : List (Segment ℚ)}

/-- Segments from a time and a coordinate of the window on.  While the window moves, its
destination stays within its room. -/
inductive Chain (axis : Axis) (framerate room : ℚ) : ℚ → ℚ → List (Segment ℚ) → Prop
  | nil (time position : ℚ) : Chain axis framerate room time position []
  | resting {time position : ℚ} {segment : Segment ℚ} {rest : List (Segment ℚ)}
      (begins : segment.startAt = time) (ordered : time ≤ segment.endAt)
      (motion : segment.along axis = .resting position)
      (behind : Chain axis framerate room segment.endAt position rest) :
      Chain axis framerate room time position (segment :: rest)
  | moving {time position destination : ℚ} {segment : Segment ℚ} {rest : List (Segment ℚ)}
      (begins : segment.startAt = time) (ordered : time ≤ segment.endAt)
      (motion : segment.along axis =
        .moving time segment.endAt framerate position destination)
      (nonneg : 0 ≤ destination) (within : destination ≤ room)
      (behind : Chain axis framerate room segment.endAt destination rest) :
      Chain axis framerate room time position (segment :: rest)

/-- No segment of a chain begins before the chain. -/
theorem Chain.le_startAt (chain : Chain axis framerate room time position segments) :
    ∀ segment ∈ segments, time ≤ segment.startAt := by
  induction chain with
  | nil => simp
  | resting begins ordered _ _ ih =>
      exact List.forall_mem_cons.mpr
        ⟨begins.ge, fun later member => ordered.trans (ih later member)⟩
  | moving begins ordered _ _ _ _ ih =>
      exact List.forall_mem_cons.mpr
        ⟨begins.ge, fun later member => ordered.trans (ih later member)⟩

/-- The segments of a chain are in the order in which they begin. -/
theorem Chain.pairwise_startAt (chain : Chain axis framerate room time position segments) :
    segments.Pairwise fun earlier later => earlier.startAt ≤ later.startAt := by
  induction chain with
  | nil => exact .nil
  | resting begins ordered _ behind ih =>
      exact .cons (fun later member => begins.le.trans
        (ordered.trans (behind.le_startAt later member))) ih
  | moving begins ordered _ _ _ behind ih =>
      exact .cons (fun later member => begins.le.trans
        (ordered.trans (behind.le_startAt later member))) ih

/-- Sorting the segments of a chain once more leaves them as they are, also those that begin
at one time. -/
theorem Chain.mergeSort_eq (chain : Chain axis framerate room time position segments) :
    (segments.mergeSort fun earlier later => !Scalar.lt later.startAt earlier.startAt) =
      segments := by
  apply List.mergeSort_of_pairwise
  apply chain.pairwise_startAt.imp
  intro earlier later ordered
  simpa [← Bool.not_eq_true] using ordered

/-! ## Keyframes -/

variable {id : String} {geometry : Geometry ℚ} {state : State ℚ} {keyframe : Keyframe ℚ}

/-- Up to a keyframe without a shift the window rests.  A shift needs a window to move, and
takes it from where it stands to a place in the frame. -/
theorem motion_inversion {found : Motion ℚ}
    (resolved : motion id geometry framerate state time keyframe axis = .ok found) :
    ((shift keyframe axis).isNull = true ∧ found = .resting (state.along axis)) ∨
      (shift keyframe axis).isNull = false ∧ ∃ (window : Window) (distance : ℚ),
        geometry.crop = some window ∧
        Length.within (geometry.frame.along axis : ℚ) (shift keyframe axis) Length.required =
          .ok distance ∧
        0 ≤ state.along axis + distance ∧
        state.along axis + distance ≤
          ((geometry.frame.along axis - window.size.along axis : ℤ) : ℚ) ∧
        found = .moving state.time time framerate (state.along axis)
          (state.along axis + distance) := by
  simp only [motion] at resolved
  split at resolved
  case isTrue unshifted =>
    cases resolved
    exact .inl ⟨unshifted, rfl⟩
  case isFalse shifted =>
    cases cropped : geometry.crop with
    | none =>
        rw [cropped] at resolved
        cases resolved
    | some window =>
        simp only [cropped, Result.bind_eq_ok_iff] at resolved
        rcases resolved with ⟨distance, read, guarded⟩
        rcases Result.refused_eq_ok_iff.mp guarded with ⟨inside, same⟩
        cases Result.pure_eq_ok_iff.mp same
        simp only [Bool.or_eq_true, Scalar.lt_rat_iff, Scalar.ofInt_rat, not_or, not_lt,
          Int.cast_zero] at inside
        exact .inr ⟨Bool.not_eq_true _ ▸ shifted, window, distance, rfl, read, inside.1,
          inside.2, rfl⟩

/-- Up to a keyframe the window rests, or it moves within its room. -/
theorem motion_cases {found : Motion ℚ}
    (resolved : motion id geometry framerate state time keyframe axis = .ok found) :
    found = .resting (state.along axis) ∨
      ∃ destination : ℚ, 0 ≤ destination ∧ destination ≤ geometry.room axis ∧
        found = .moving state.time time framerate (state.along axis) destination := by
  rcases motion_inversion resolved with
    ⟨_, rests⟩ | ⟨_, window, distance, cropped, _, nonneg, within, moves⟩
  · exact .inl rests
  · refine .inr ⟨_, nonneg, ?_, moves⟩
    rwa [Geometry.room, cropped]

/-- What a segment takes over from the state before it. -/
theorem segment_cases {found : Segment ℚ}
    (resolved : segment id geometry framerate state time keyframe = .ok found) :
    0 ≤ time ∧ found.startAt = state.time ∧ found.endAt = time ∧
      found.startZoom = state.zoom ∧
      ∀ axis, motion id geometry framerate state time keyframe axis =
        .ok (found.along axis) := by
  simp only [segment] at resolved
  rcases Result.refused_eq_ok_iff.mp resolved with ⟨nonneg, rest⟩
  simp only [Result.bind_eq_ok_iff] at rest
  rcases rest with ⟨x, xResolved, y, yResolved, destinationZoom, _, same⟩
  cases Result.pure_eq_ok_iff.mp same
  simp only [Scalar.lt_rat_iff, Scalar.ofInt_rat, Int.cast_zero, not_lt] at nonneg
  refine ⟨nonneg, rfl, rfl, rfl, fun axis => ?_⟩
  cases axis with
  | horizontal => exact xResolved
  | vertical => exact yResolved

/-- The window stands behind a segment where the axes end. -/
theorem along_after (segment : Segment ℚ) (axis : Axis) :
    (after segment).along axis = (segment.along axis).final := by
  cases axis <;> rfl

/-- What holds without keyframes, and with a keyframe in front of others if it holds with
these, holds with all keyframes in order of their times. -/
theorem segmentsFrom_induction
    {motive : State ℚ → List (ℚ × Keyframe ℚ) → List (Segment ℚ) → Prop}
    (nil : ∀ state, motive state [] [])
    (cons : ∀ state time keyframe rest found later, state.time ≤ time →
      segment id geometry framerate state time keyframe = .ok found →
      motive (after found) rest later →
      motive state ((time, keyframe) :: rest) (found :: later))
    {keyframes : List (ℚ × Keyframe ℚ)}
    (ordered : keyframes.Pairwise fun earlier later => earlier.1 ≤ later.1)
    (begun : ∀ keyframe ∈ keyframes, 0 ≤ keyframe.1 → state.time ≤ keyframe.1)
    (made : segmentsFrom id geometry framerate state keyframes = .ok segments) :
    motive state keyframes segments := by
  induction keyframes generalizing state segments with
  | nil =>
      cases made
      exact nil state
  | cons entry rest ih =>
      rcases entry with ⟨time, keyframe⟩
      rcases List.pairwise_cons.mp ordered with ⟨first, orderedRest⟩
      simp only [segmentsFrom, Result.bind_eq_ok_iff, Result.pure_eq_ok_iff] at made
      rcases made with ⟨found, resolved, later, madeRest, rfl⟩
      rcases segment_cases resolved with ⟨nonneg, _, endAt_eq, _, _⟩
      apply cons state time keyframe rest found later _ resolved
      · exact ih orderedRest (fun other member _ => endAt_eq.trans_le (first other member)) madeRest
      · exact begun _ List.mem_cons_self nonneg

/-- Keyframes in order of their times give a chain. -/
theorem segmentsFrom_chain (axis : Axis) {keyframes : List (ℚ × Keyframe ℚ)}
    (ordered : keyframes.Pairwise fun earlier later => earlier.1 ≤ later.1)
    (begun : ∀ keyframe ∈ keyframes, 0 ≤ keyframe.1 → state.time ≤ keyframe.1)
    (made : segmentsFrom id geometry framerate state keyframes = .ok segments) :
    Chain axis framerate (geometry.room axis) state.time (state.along axis) segments := by
  apply segmentsFrom_induction (motive := fun state _ segments =>
    Chain axis framerate (geometry.room axis) state.time (state.along axis) segments) _ _
    ordered begun made
  · exact fun state => .nil _ _
  · intro state time keyframe rest found later order resolved behind
    rcases segment_cases resolved with ⟨_, startAt_eq, endAt_eq, _, moved⟩
    rw [along_after] at behind
    rw [← endAt_eq] at order
    rcases motion_cases (moved axis) with rests | ⟨destination, destNonneg, within, moves⟩
    · rw [rests] at behind
      exact .resting startAt_eq order rests behind
    · rw [moves] at behind
      rw [← endAt_eq] at moves
      exact .moving startAt_eq order moves destNonneg within behind

/-- Keyframes are taken in order of their times. -/
theorem timed_pairwise {scope : Scope ℚ} {keyframes : List (Keyframe ℚ)}
    {sorted : List (ℚ × Keyframe ℚ)} (resolved : timed scope keyframes = .ok sorted) :
    sorted.Pairwise fun earlier later => earlier.1 ≤ later.1 := by
  simp only [timed, Result.bind_eq_ok_iff, Result.pure_eq_ok_iff] at resolved
  rcases resolved with ⟨unsorted, _, rfl⟩
  refine (List.pairwise_mergeSort ?_ ?_ unsorted).imp ?_
  · intro first second third firstLe secondLe
    simp only [Bool.not_eq_true', ← Bool.not_eq_true, Scalar.lt_rat_iff, not_lt] at *
    exact firstLe.trans secondLe
  · intro first second
    simp only [Bool.or_eq_true, Bool.not_eq_true', ← Bool.not_eq_true, Scalar.lt_rat_iff, not_lt]
    exact le_total first.1 second.1
  · intro first second ordered
    simpa [← Bool.not_eq_true] using ordered

/-- The segments of a clip are those made of its keyframes in their order. -/
theorem segments_eq_ok_iff {scope : Scope ℚ} {clip : Clip ℚ} :
    Zoompan.segments scope clip geometry framerate = .ok segments ↔
      ∃ ordered, timed scope clip.zoompan = .ok ordered ∧
        segmentsFrom clip.id geometry framerate .initial ordered = .ok segments := by
  have sorted {ordered made} (resolved : timed scope clip.zoompan = .ok ordered)
      (madeFrom : segmentsFrom clip.id geometry framerate .initial ordered = .ok made) :=
    (segmentsFrom_chain .horizontal (timed_pairwise resolved) (fun _ _ nonneg => nonneg)
      madeFrom).mergeSort_eq
  simp only [Zoompan.segments, Result.bind_eq_ok_iff, Result.pure_eq_ok_iff]
  constructor
  · rintro ⟨ordered, resolved, made, madeFrom, same⟩
    rw [sorted resolved madeFrom] at same
    exact ⟨ordered, resolved, same ▸ madeFrom⟩
  · rintro ⟨ordered, resolved, madeFrom⟩
    exact ⟨ordered, resolved, segments, madeFrom, sorted resolved madeFrom⟩

/-- The segments of a clip are a chain that begins at zero with the window in the corner
of its frame. -/
theorem segments_chain (axis : Axis) {scope : Scope ℚ} {clip : Clip ℚ}
    (made : Zoompan.segments scope clip geometry framerate = .ok segments) :
    Chain axis framerate (geometry.room axis) 0 0 segments := by
  rcases segments_eq_ok_iff.mp made with ⟨sorted, resolved, madeFrom⟩
  have chain := segmentsFrom_chain axis (timed_pairwise resolved)
    (fun _ _ nonneg => nonneg) madeFrom
  cases axis <;> exact chain

/-! ## A pan with a jump -/

deriving instance DecidableEq for LinearFormula
deriving instance DecidableEq for Motion
deriving instance DecidableEq for Segment

/-- A clip whose window rests, moves, jumps and rests again. -/
def panningClip : Clip ℚ :=
  { Clip.plain "panning" "panning.mp4" with
    crop := ⟨some (.text "7px"), some (.text "43px"), none, none⟩
    zoompan :=
      [⟨.number 1, .null, .null, .null⟩, ⟨.number 2, .text "20px", .null, .null⟩,
        ⟨.number 2, .text "10px", .null, .null⟩, ⟨.number 3, .null, .null, .null⟩] }

/-- Where the clip stands if its source has a hundred pixels each way. -/
def panningPlace : Geometry ℚ :=
  ⟨0, 0, ⟨100, 100⟩, none, some ⟨7, 0, 50, 100⟩⟩

/-- The four segments of the clip. -/
def panningSegments : List (Segment ℚ) :=
  [⟨0, 1, .resting 0, .resting 0, 1, none⟩,
    ⟨1, 2, .moving 1 2 30 0 20, .resting 0, 1, none⟩,
    ⟨2, 2, .moving 2 2 30 20 30, .resting 0, 1, none⟩,
    ⟨2, 3, .resting 30, .resting 0, 1, none⟩]

private theorem timed_panningClip (scope : Scope ℚ) :
    timed scope panningClip.zoompan =
      .ok ((panningClip.zoompan.zip [1, 2, 2, 3]).map Prod.swap) := by
  have ordered : ((panningClip.zoompan.zip [(1 : ℚ), 2, 2, 3]).map Prod.swap).Pairwise
      fun earlier later => !Scalar.lt later.1 earlier.1 := by
    decide +kernel
  rw [← List.mergeSort_of_pairwise ordered]
  rfl

theorem segments_panningClip (scope : Scope ℚ) :
    Zoompan.segments scope panningClip panningPlace 30 = .ok panningSegments := by
  rw [segments_eq_ok_iff]
  refine ⟨_, timed_panningClip scope, ?_⟩
  rw [← Result.toOption_eq_some_iff]
  decide +kernel

end Zoompan

end Montage
