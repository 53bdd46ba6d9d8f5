import Montage.Proofs.Zoompan.Chain

/-!
# Where a chain puts the window

The offset of a pan is defined by a search: the last segment that covers a time, or
else the last one that has begun.  Along a chain this is the first segment that has not
ended yet, and the place where all of them leave the window if there is none.  The two
agree where segments meet, because a motion ends at its destination.
-/

namespace Montage

variable {startAt endAt framerate start destination time : ℚ}

/-! ## Formulas -/

namespace LinearFormula

/-- A formula is at its destination at the end. -/
theorem evaluate_between_endAt :
    (between startAt endAt framerate start destination).evaluate (endAt * framerate) =
      destination := by
  by_cases still : (endAt - startAt) * framerate = 0
  · rw [between, if_pos (by simpa using still)]
    simp [evaluate]
  · rw [between, if_neg (by simpa using still)]
    simp only [evaluate]
    rw [← sub_mul, mul_div_cancel₀ _ still]
    ring

/-- A formula is at its start at the beginning, if there is any frame before the end. -/
theorem evaluate_between_startAt (frames : (endAt - startAt) * framerate ≠ 0) :
    (between startAt endAt framerate start destination).evaluate (startAt * framerate) =
      start := by
  rw [between, if_neg (by simpa using frames)]
  simp [evaluate]

/-- Between its ends a formula mixes its start with its destination. -/
theorem evaluate_between_eq_mix (framerate start destination : ℚ) (begun : startAt ≤ time)
    (covered : time ≤ endAt) :
    ∃ share : ℚ, 0 ≤ share ∧ share ≤ 1 ∧
      (between startAt endAt framerate start destination).evaluate (time * framerate) =
        (1 - share) * start + share * destination := by
  by_cases still : (endAt - startAt) * framerate = 0
  · refine ⟨1, zero_le_one, le_rfl, ?_⟩
    rw [between, if_pos (by simpa using still)]
    simp [evaluate]
  · have lasts : endAt - startAt ≠ 0 := left_ne_zero_of_mul still
    have shows : framerate ≠ 0 := right_ne_zero_of_mul still
    have length_pos : 0 < endAt - startAt :=
      lt_of_le_of_ne (by linarith) lasts.symm
    refine ⟨(time - startAt) / (endAt - startAt), div_nonneg (by linarith) length_pos.le,
      (div_le_one length_pos).mpr (by linarith), ?_⟩
    rw [between, if_neg (by simpa using still)]
    simp only [evaluate]
    field_simp
    ring

end LinearFormula

namespace Motion

@[simp]
theorem moves_resting (start : ℚ) : (resting start).moves = false :=
  rfl

@[simp]
theorem moves_moving :
    (moving startAt endAt framerate start destination).moves = true :=
  rfl

@[simp]
theorem final_resting (start : ℚ) : (resting start).final = start :=
  rfl

@[simp]
theorem final_moving :
    (moving startAt endAt framerate start destination).final = destination :=
  rfl

@[simp]
theorem atFrame_resting (start frame : ℚ) : (resting start).atFrame frame = start :=
  rfl

@[simp]
theorem atFrame_moving (frame : ℚ) :
    (moving startAt endAt framerate start destination).atFrame frame =
      (LinearFormula.between startAt endAt framerate start destination).evaluate frame :=
  rfl

end Motion

/-! ## Positions along a chain -/

namespace Zoompan

variable {axis : Axis} {room position base : ℚ} {segments : List (Segment ℚ)}

/-- The coordinate of the window at a time: in the first segment that has not ended, or
where the last one leaves it. -/
def positionAt (axis : Axis) (framerate time position : ℚ) : List (Segment ℚ) → ℚ
  | [] => position
  | segment :: rest =>
      if time < segment.endAt then (segment.along axis).atFrame (time * framerate)
      else positionAt axis framerate time (segment.along axis).final rest

/-- The window is where the first segment leaves it once that has ended. -/
theorem Chain.atFrame_endAt {segment : Segment ℚ} {rest : List (Segment ℚ)}
    (chain : Chain axis framerate room time position (segment :: rest)) :
    (segment.along axis).atFrame (segment.endAt * framerate) = (segment.along axis).final := by
  cases chain with
  | resting _ _ motion _ => rw [motion, Motion.atFrame_resting, Motion.final_resting]
  | moving _ _ motion _ _ _ =>
      rw [motion, Motion.atFrame_moving, Motion.final_moving,
        LinearFormula.evaluate_between_endAt]

theorem Chain.head {segment : Segment ℚ} {rest : List (Segment ℚ)}
    (chain : Chain axis framerate room time position (segment :: rest)) :
    segment.startAt = time ∧ time ≤ segment.endAt ∧
      Chain axis framerate room segment.endAt (segment.along axis).final rest := by
  cases chain with
  | resting begins ordered motion behind =>
      rw [motion]
      exact ⟨begins, ordered, behind⟩
  | moving begins ordered motion _ _ behind =>
      rw [motion]
      exact ⟨begins, ordered, behind⟩

@[simp]
theorem begun_iff {segment : Segment ℚ} :
    segment.begun time = true ↔ segment.startAt ≤ time := by
  simp [Segment.begun]

@[simp]
theorem covers_iff {segment : Segment ℚ} :
    segment.covers time = true ↔ segment.startAt ≤ time ∧ time ≤ segment.endAt := by
  simp [Segment.covers]

/-- What a search for the last segment that covers a time finds. -/
def searched (axis : Axis) (framerate time position : ℚ) (segments : List (Segment ℚ)) : ℚ :=
  match (segments.filter fun segment => segment.covers time).getLast? with
  | some segment => (segment.along axis).atFrame (time * framerate)
  | none =>
      match (segments.filter fun segment => segment.begun time).getLast? with
      | some segment => (segment.along axis).final
      | none => position

/-- While the first segment lasts, the search finds it. -/
private theorem searched_of_lt {segment : Segment ℚ} {rest : List (Segment ℚ)} {begin : ℚ}
    (chain : Chain axis framerate room begin position (segment :: rest)) (begun : begin ≤ time)
    (lasts : time < segment.endAt) :
    searched axis framerate time position (segment :: rest) =
      (segment.along axis).atFrame (time * framerate) := by
  rcases chain.head with ⟨begins, _, behind⟩
  have covered : segment.covers time = true :=
    covers_iff.mpr ⟨begins.trans_le begun, lasts.le⟩
  have uncovered : rest.filter (fun later => later.covers time) = [] := by
    rw [List.filter_eq_nil_iff]
    intro later member covers
    have begins := behind.le_startAt later member
    exact absurd (covers_iff.mp covers).1 (not_le.mpr (lasts.trans_le begins))
  simp only [searched, List.filter_cons, covered, uncovered, if_true]
  rfl

/-- Once the first segment has ended, the search may begin behind it. -/
private theorem searched_of_le {segment : Segment ℚ} {rest : List (Segment ℚ)} {begin : ℚ}
    (chain : Chain axis framerate room begin position (segment :: rest))
    (ended : segment.endAt ≤ time) :
    searched axis framerate time position (segment :: rest) =
      searched axis framerate time (segment.along axis).final rest := by
  rcases chain.head with ⟨begins, ordered, behind⟩
  have begun : segment.begun time = true :=
    begun_iff.mpr (begins.trans_le (ordered.trans ended))
  cases found : (rest.filter fun later => later.covers time).getLast? with
  | some later =>
      -- A later segment wins, whether the first one covers the time or not.
      have still : ((segment :: rest).filter fun later => later.covers time).getLast? =
          some later := by
        rw [List.filter_cons]
        split
        · rw [List.getLast?_cons, found]
          rfl
        · exact found
      simp only [searched, found, still]
  | none =>
      have uncovered := List.getLast?_eq_none_iff.mp found
      rcases ended.eq_or_lt with meets | passed
      · -- At the end of the first segment the next one would cover the time.
        have rest_eq : rest = [] := by
          cases rest with
          | nil => rfl
          | cons next others =>
              rcases behind.head with ⟨nextBegins, nextOrdered, _⟩
              have covered : next.covers time = true :=
                covers_iff.mpr ⟨(nextBegins.trans meets).le, meets.ge.trans nextOrdered⟩
              simp [covered] at uncovered
        have covered : segment.covers time = true :=
          covers_iff.mpr ⟨begun_iff.mp begun, meets.ge⟩
        subst rest_eq meets
        simp only [searched, List.filter_cons, covered, if_true]
        exact chain.atFrame_endAt
      · have uncoveredFirst : segment.covers time = false := by
          rw [← Bool.not_eq_true, covers_iff]
          exact fun covers => absurd covers.2 (not_le.mpr passed)
        simp only [searched, List.filter_cons, uncoveredFirst, uncovered, begun, if_true,
          Bool.false_eq_true, if_false, List.getLast?_nil, List.getLast?_cons]
        cases (rest.filter fun later => later.begun time).getLast? <;> rfl

/-- The search finds the first segment that has not ended. -/
theorem searched_eq_positionAt {begin : ℚ}
    (chain : Chain axis framerate room begin position segments) (begun : begin ≤ time) :
    searched axis framerate time position segments =
      positionAt axis framerate time position segments := by
  induction segments generalizing begin position with
  | nil => rfl
  | cons segment rest ih =>
      rw [positionAt]
      split
      · rename_i lasts
        exact searched_of_lt chain begun lasts
      · rename_i ended
        rw [searched_of_le chain (not_lt.mp ended)]
        exact ih chain.head.2.2 (not_lt.mp ended)

/-- The window stays within its room. -/
theorem Chain.positionAt_mem {begin : ℚ}
    (chain : Chain axis framerate room begin position segments) (begun : begin ≤ time)
    (nonneg : 0 ≤ position) (within : position ≤ room) :
    0 ≤ positionAt axis framerate time position segments ∧
      positionAt axis framerate time position segments ≤ room := by
  induction chain with
  | nil _ _ => exact ⟨nonneg, within⟩
  | @resting begin position segment rest begins ordered motion behind ih =>
      rw [positionAt, motion]
      split
      · exact ⟨nonneg, within⟩
      · rename_i ended
        exact ih (not_lt.mp ended) nonneg within
  | @moving begin position destination segment rest begins ordered motion destNonneg destWithin
      behind ih =>
      rw [positionAt, motion]
      split
      · rename_i lasts
        rcases LinearFormula.evaluate_between_eq_mix framerate position destination begun lasts.le
          with ⟨share, shareNonneg, shareLe, mixed⟩
        rw [Motion.atFrame_moving, mixed]
        have left : 0 ≤ 1 - share := by linarith
        constructor
        · positivity
        · nlinarith [mul_le_mul_of_nonneg_left within left,
            mul_le_mul_of_nonneg_left destWithin shareNonneg]
      · rename_i ended
        exact ih (not_lt.mp ended) destNonneg destWithin

/-! ## Before the first motion -/

/-- The offset at a time, which is `base` until the first segment that moves the
window. -/
def offsetAt (axis : Axis) (framerate time base : ℚ) (segments : List (Segment ℚ)) : ℚ :=
  match segments.find? fun segment => (segment.along axis).moves with
  | none => base
  | some first =>
      if time < first.startAt then base else positionAt axis framerate time 0 segments

/-- The offset of a pan is that of its chain, and there always is one. -/
theorem panOffset_eq_ok (chain : Chain axis framerate room 0 0 segments) :
    panOffset segments axis time framerate base =
      .ok (offsetAt axis framerate time base segments) := by
  rw [panOffset, offsetAt]
  cases found : segments.find? fun segment => (segment.along axis).moves with
  | none => rfl
  | some first =>
      have member : first ∈ segments := List.mem_of_find?_eq_some found
      by_cases early : time < first.startAt
      · simp only [Scalar.lt_rat_iff, early, if_true]
      · have begun : 0 ≤ time := (chain.le_startAt first member).trans (not_lt.mp early)
        have begunFirst : segments.filter (fun segment => segment.begun time) ≠ [] := by
          apply List.ne_nil_of_mem (a := first)
          exact List.mem_filter.mpr ⟨member, begun_iff.mpr (not_lt.mp early)⟩
        simp only [Scalar.lt_rat_iff, early, if_false, Scalar.checked_rat]
        rw [← searched_eq_positionAt chain begun, searched]
        cases (segments.filter fun segment => segment.covers time).getLast? with
        | some segment => rfl
        | none =>
            cases last : (segments.filter fun segment => segment.begun time).getLast? with
            | some segment => rfl
            | none => exact absurd (List.getLast?_eq_none_iff.mp last) begunFirst

end Zoompan

end Montage
