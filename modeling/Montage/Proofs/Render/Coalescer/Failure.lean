import Montage.Proofs.Render.Coalescer.Rounds

/-!
# Requests behind a failure

A render that fails lets the coalescer go with every mark on it.  So a request that was
declined during that render is dropped, unless somebody asks again.  Which requests are
dropped is read off two counts: every round has one render, which begins behind the turn
that opens the round.
-/

namespace Montage.Coalescer

/-- How many rounds open in a schedule. -/
def rounds (turns : List Turn) : ℕ :=
  turns.countP fun turn => turn.move.opensRound

theorem rounds_cons (turn : Turn) (turns : List Turn) :
    rounds (turn :: turns) = rounds turns + turn.move.opensRound.toNat := by
  cases opens : turn.move.opensRound <;> simp [rounds, opens]

theorem rounds_eq_zero_iff {turns : List Turn} :
    rounds turns = 0 ↔ ∀ turn ∈ turns, turn.move.opensRound = false := by
  simp [rounds, List.countP_eq_zero]

theorem count_pos_iff {move : Move} {turns : List Turn} :
    0 < count move turns ↔ ∃ turn ∈ turns, turn.move = move := by
  simp [count, List.countP_pos_iff]

namespace Threads

variable {threads next final : Threads} {turn : Turn} {turns earlier rest : List Turn}
  {holder : Option (ℕ × Place)} {thread : ℕ}

/-! ## One render for every round -/

/-- A turn that opens a round leaves its runner about to render, and only the beginning of
the render changes that. -/
theorem prepares_step {move : Move} (held : Held threads holder)
    (stepped : Step threads thread move next) :
    (decide (move = .begin)).toNat + (prepares (holderAfter holder thread move)).toNat =
      move.opensRound.toNat + (prepares holder).toNat := by
  cases stepped with
  | call _ => rfl
  | decline _ _ => rfl
  | claim _ free =>
      cases held.eq_none_of_free free
      rfl
  | begin stands =>
      cases held.eq_some stands rfl
      rfl
  | finish stands =>
      cases held.eq_some stands rfl
      rfl
  | fail stands =>
      cases held.eq_some stands rfl
      rfl
  | again stands _ =>
      cases held.eq_some stands rfl
      rfl
  | leave stands _ =>
      cases held.eq_some stands rfl
      rfl
  | abort stands =>
      cases held.eq_some stands rfl
      rfl

/-- In every run as many renders begin as rounds open, but for a holder that is about to
render before the run or behind it. -/
theorem begins_of_run (held : Held threads holder)
    (ran : Schedule.run step threads turns = some final) :
    ∃ last, Held final last ∧
      count .begin turns + (prepares last).toNat = rounds turns + (prepares holder).toNat := by
  induction turns generalizing threads holder with
  | nil =>
      cases ran
      exact ⟨holder, held, rfl⟩
  | cons turn turns ih =>
      rcases Schedule.run_cons_eq_some_iff.mp ran with ⟨next, stepped, ranRest⟩
      have taken := step_eq_some_iff.mp stepped
      rcases ih (held.step taken) ranRest with ⟨last, heldLast, balance⟩
      refine ⟨last, heldLast, ?_⟩
      have turned := prepares_step held taken
      have begins : count .begin (turn :: turns) =
          count .begin turns + (decide (turn.move = .begin)).toNat := by
        rw [count_cons]
        by_cases isBegin : turn.move = .begin <;> simp [isBegin]
      rw [begins, rounds_cons]
      omega

/-- Before all threads are outside, a render begins exactly if one is about to begin or a
round opens. -/
theorem exists_begin_iff (held : Held threads holder)
    (ran : Schedule.run step threads turns = some final) (quiet : final.Quiet) :
    (∃ turn ∈ turns, turn.move = .begin) ↔ 0 < rounds turns + (prepares holder).toNat := by
  rcases begins_of_run held ran with ⟨last, heldLast, balance⟩
  cases heldLast.eq_none_of_quiet quiet
  rw [← balance, ← count_pos_iff]
  rfl

/-! ## The end of a mark -/

/-- A mark stays on the coalescer until a round opens or it is let go. -/
theorem pending_step {move : Move} (marked : threads.state.pending = true)
    (stepped : Step threads thread move next) (stays : move.opensRound = false)
    (keeps : move ≠ .abort) : next.state.pending = true := by
  cases stepped with
  | call _ => exact marked
  | decline _ _ => rfl
  | claim _ _ => exact marked
  | begin _ => exact marked
  | finish _ => exact marked
  | fail _ => exact marked
  | again _ _ => cases stays
  | leave _ unmarked =>
      rw [marked] at unmarked
      cases unmarked
  | abort _ => exact absurd rfl keeps

/-- A mark that no round takes back is let go before all threads are outside. -/
theorem exists_abort (held : Held threads holder) (marked : threads.state.pending = true)
    (ran : Schedule.run step threads turns = some final) (quiet : final.Quiet)
    (closed : ∀ turn ∈ turns, turn.move.opensRound = false) :
    ∃ turn ∈ turns, turn.move = .abort := by
  induction turns generalizing threads holder with
  | nil =>
      cases ran
      have isHeld := held.marked marked
      rw [held.eq_none_of_quiet quiet] at isHeld
      cases isHeld
  | cons turn turns ih =>
      rcases Schedule.run_cons_eq_some_iff.mp ran with ⟨next, stepped, ranRest⟩
      rcases List.forall_mem_cons.mp closed with ⟨turnCloses, restClosed⟩
      by_cases aborts : turn.move = .abort
      · exact ⟨turn, List.mem_cons_self, aborts⟩
      · have taken := step_eq_some_iff.mp stepped
        have stillMarked := pending_step marked taken turnCloses aborts
        rcases ih (held.step taken) stillMarked ranRest restClosed with ⟨found, member, aborts⟩
        exact ⟨found, List.mem_cons_of_mem turn member, aborts⟩

/-! ## Main result -/

/-- What happens to a request that is dropped: the render of its round had begun when it
came, that render fails, and no round opens any more. -/
structure Dropped (earlier rest : List Turn) : Prop where
  begun : count .begin earlier = rounds earlier
  fails : ∃ turn ∈ rest, turn.move = .abort
  closed : ∀ turn ∈ rest, turn.move.opensRound = false

/-- Once all threads are outside, a declined request has been dropped if and only if no
render began behind it. -/
theorem dropped_iff (reached : after (earlier ++ ⟨thread, .decline⟩ :: rest) = some final)
    (quiet : final.Quiet) :
    Dropped earlier rest ↔ ¬∃ turn ∈ rest, turn.move = .begin := by
  rw [after, Schedule.run_append] at reached
  rcases Option.bind_eq_some_iff.mp reached with ⟨middle, ranEarlier, ranLater⟩
  rcases Schedule.run_cons_eq_some_iff.mp ranLater with ⟨next, stepped, ranRest⟩
  rcases begins_of_run held_idle ranEarlier with ⟨holder, held, balance⟩
  have taken := step_eq_some_iff.mp stepped
  have heldNext : Held next holder := held.step taken
  have marked : next.state.pending = true := by
    cases taken with
    | decline _ _ => rfl
  rw [exists_begin_iff heldNext ranRest quiet, Nat.pos_iff_ne_zero, not_not, Nat.add_eq_zero_iff]
  have noneBefore : (prepares none).toNat = 0 := rfl
  constructor
  · rintro ⟨begun, _, closed⟩
    exact ⟨rounds_eq_zero_iff.mpr closed, by omega⟩
  · rintro ⟨noRounds, prepared⟩
    have closed := rounds_eq_zero_iff.mp noRounds
    exact ⟨by omega, exists_abort heldNext marked ranRest quiet closed, closed⟩

/-- Once all threads are outside, every declined request has been followed by a render if
and only if none has been dropped. -/
theorem served_iff_not_dropped (reached : after turns = some final) (quiet : final.Quiet) :
    Served turns ↔
      ∀ earlier thread rest, turns = earlier ++ ⟨thread, .decline⟩ :: rest →
        ¬Dropped earlier rest := by
  constructor
  · intro served earlier thread rest split
    have begins := served earlier thread rest split
    subst split
    rw [dropped_iff reached quiet, not_not]
    exact begins
  · intro noneDropped earlier thread rest split
    have kept := noneDropped earlier thread rest split
    subst split
    rwa [dropped_iff reached quiet, not_not] at kept

/-! ## Two schedules -/

/-- Whether a schedule comes to rest can be evaluated, since only the threads that take
turns can end inside a request. -/
theorem exists_quiet
    (rests : (after turns).any fun final =>
      turns.all fun turn => final.place turn.thread = .outside) :
    ∃ final, after turns = some final ∧ final.Quiet := by
  rcases Option.any_eq_true _ _ |>.mp rests with ⟨final, reached, outside⟩
  refine ⟨final, reached, quiet_of_run reached fun turn member => ?_⟩
  exact of_decide_eq_true (List.all_eq_true.mp outside turn member)

/-- A request is declined during a render that fails, and nobody asks again. -/
def failingSchedule : List Turn :=
  [⟨0, .call⟩, ⟨1, .call⟩, ⟨0, .claim⟩, ⟨0, .begin⟩, ⟨1, .decline⟩, ⟨0, .fail⟩, ⟨0, .abort⟩]

/-- No request is under way, and the one that was declined has never been served. -/
theorem not_served_failingSchedule :
    ∃ final, after failingSchedule = some final ∧ final.Quiet ∧ ¬Served failingSchedule := by
  have rests : ∃ final, after failingSchedule = some final ∧ final.Quiet :=
    exists_quiet (by decide)
  rcases rests with ⟨final, reached, quiet⟩
  refine ⟨final, reached, quiet, ?_⟩
  intro served
  rcases served (failingSchedule.take 4) 1 (failingSchedule.drop 5) rfl with
    ⟨turn, member, begins⟩
  have noneBegins : ∀ turn ∈ failingSchedule.drop 5, turn.move ≠ .begin := by decide
  exact noneBegins turn member begins

/-- Two renders fail.  The request that is declined in the first one is served by the
second, and the request that is declined in the second one is dropped. -/
def twiceFailingSchedule : List Turn :=
  failingSchedule ++
    [⟨1, .call⟩, ⟨2, .call⟩, ⟨2, .claim⟩, ⟨2, .begin⟩, ⟨1, .decline⟩, ⟨2, .fail⟩, ⟨2, .abort⟩]

theorem dropped_twiceFailingSchedule :
    ∃ final, after twiceFailingSchedule = some final ∧ final.Quiet ∧
      Dropped (twiceFailingSchedule.take 11) (twiceFailingSchedule.drop 12) ∧
      ¬Served twiceFailingSchedule := by
  have rests : ∃ final, after twiceFailingSchedule = some final ∧ final.Quiet :=
    exists_quiet (by decide)
  rcases rests with ⟨final, reached, quiet⟩
  have dropped : Dropped (twiceFailingSchedule.take 11) (twiceFailingSchedule.drop 12) :=
    ⟨by decide, by decide, by decide⟩
  refine ⟨final, reached, quiet, dropped, ?_⟩
  intro served
  exact (served_iff_not_dropped reached quiet).mp served _ 1 _ rfl dropped

end Threads

end Montage.Coalescer
