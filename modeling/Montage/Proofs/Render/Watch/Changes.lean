import Montage.Proofs.Render.Watch.Looks
import Montage.Proofs.Schedule

/-!
# Changes that are rendered

Every change that a look can tell from what was seen before leads to a render that begins
behind it: it is unnoticed until a look ends in a request, and a request is awaited until
its render begins.  What no look can tell are the changes in front of the first glance at a
path, those during the first render among them, and changes that are taken back before the
next glance.
-/

namespace Montage.Coalescer.Threads

variable {threads next : Threads} {turn : Turn} {holder : Option (ℕ × Place)}

/-! ## Requests to come -/

/-- A render is to begin, since somebody asks for one or one is due. -/
def Awaited (threads : Threads) (holder : Option (ℕ × Place)) : Prop :=
  (∃ thread, threads.place thread = .asking) ∨ Due holder threads.state

/-- What is awaited is awaited until a render begins. -/
theorem awaited_step (held : Held threads holder) (sound : Sound holder)
    (awaited : Awaited threads holder) (goesOn : turn.move ≠ .fail)
    (stepped : Step threads turn.thread turn.move next) :
    turn.move = .begin ∨ Awaited next (holderAfter holder turn.thread turn.move) := by
  rcases awaited with ⟨asker, asks⟩ | due
  · right
    by_cases moves : asker = turn.thread
    · subst moves
      right
      generalize turn.move = move at stepped
      cases stepped with
      | decline _ _ => exact .inl rfl
      | claim _ _ => exact .inr ⟨turn.thread, rfl⟩
      | call stands => cases asks.symm.trans stands
      | begin stands => cases asks.symm.trans stands
      | finish stands => cases asks.symm.trans stands
      | fail stands => cases asks.symm.trans stands
      | again stands _ => cases asks.symm.trans stands
      | leave stands _ => cases asks.symm.trans stands
      | abort stands => cases asks.symm.trans stands
    · exact .inl ⟨asker, (stepped.place_of_ne moves).trans asks⟩
  · exact (due_step held sound due goesOn stepped).imp_right .inr

theorem not_awaited_of_quiet (held : Held threads holder) (quiet : threads.Quiet) :
    ¬Awaited threads holder := by
  rintro (⟨asker, asks⟩ | marked | ⟨runner, runs⟩)
  · cases (quiet asker).symm.trans asks
  · have isHeld := held.marked marked
    rw [held.eq_none_of_quiet quiet] at isHeld
    cases isHeld
  · rw [held.eq_none_of_quiet quiet] at runs
    cases runs

/-- Nobody enters a request but by a call. -/
theorem Step.place_ne_outside {thread : ℕ} {move : Move} (stepped : Step threads thread move next)
    (inside : move ≠ .call) : threads.place thread ≠ .outside := by
  intro outside
  cases stepped with
  | call _ => exact inside rfl
  | decline stands _ => cases outside.symm.trans stands
  | claim stands _ => cases outside.symm.trans stands
  | begin stands => cases outside.symm.trans stands
  | finish stands => cases outside.symm.trans stands
  | fail stands => cases outside.symm.trans stands
  | again stands _ => cases outside.symm.trans stands
  | leave stands _ => cases outside.symm.trans stands
  | abort stands => cases outside.symm.trans stands

end Montage.Coalescer.Threads

namespace Montage.Watch.Watcher

open Montage.Coalescer (Place)
open Montage.Coalescer.Threads (Held Sound Awaited)

variable {watcher next final : Watcher ℚ} {turn : Turn ℚ} {turns : List (Turn ℚ)} {path : ℕ}
  {holder : Option (ℕ × Place)} {times : List (Option ℚ)}

/-! ## The threads of a watcher -/

/-- The coalescer has a holder that has not failed, and threads that have not been started
stand outside. -/
structure Running (watcher : Watcher ℚ) (holder : Option (ℕ × Place)) : Prop where
  held : Held watcher.threads holder
  sound : Sound holder
  unstarted : ∀ thread, watcher.fresh ≤ thread → watcher.threads.place thread = .outside

/-- Who holds the coalescer behind a turn of the watcher. -/
def holderAfter (holder : Option (ℕ × Place)) : Turn ℚ → Option (ℕ × Place)
  | .render turn => Coalescer.Threads.holderAfter holder turn.thread turn.move
  | _ => holder

theorem running_start (times : List (Option ℚ)) : Running (start times) none := by
  constructor
  · exact Coalescer.Threads.held_idle.step (.call rfl)
  · exact Coalescer.Threads.sound_none
  · intro thread started
    exact Coalescer.Threads.advance_place_of_ne (Nat.ne_of_gt started)

/-- A turn that fails no render leaves the watcher running. -/
theorem Running.step (running : Running watcher holder) (goesOn : turn.fails = false)
    (stepped : Step watcher turn next) : Running next (holderAfter holder turn) := by
  rcases running with ⟨held, sound, unstarted⟩
  cases stepped with
  | change _ => exact ⟨held, sound, unstarted⟩
  | @render move threads inside moved =>
      have taken := Coalescer.Threads.step_eq_some_iff.mp moved
      refine ⟨held.step taken, Coalescer.Threads.sound_holderAfter sound ?_, ?_⟩
      · simpa [Turn.fails] using goesOn
      · intro thread started
        have stands := unstarted thread started
        have different : thread ≠ move.thread := by
          rintro rfl
          exact taken.place_ne_outside inside stands
        exact (taken.place_of_ne different).trans stands
  | lookFirst _ _ => exact ⟨held, sound, unstarted⟩
  | lookAgain _ => exact ⟨held, sound, unstarted⟩
  | glance _ _ => exact ⟨held, sound, unstarted⟩
  | settle _ _ => exact ⟨held, sound, unstarted⟩
  | ignore _ _ _ => exact ⟨held, sound, unstarted⟩
  | notice _ _ _ =>
      refine ⟨held.step (.call (unstarted watcher.fresh le_rfl)), sound, ?_⟩
      intro thread started
      exact (Coalescer.Threads.advance_place_of_ne (Nat.ne_of_gt started)).trans
        (unstarted thread (Nat.le_of_succ_le started))

/-- The first request does not fail either. -/
theorem Running.ne_abort (running : Running watcher holder) (stepped : Step watcher turn next) :
    turn ≠ .render ⟨0, .abort⟩ := by
  rintro rfl
  cases stepped with
  | render _ moved =>
      have taken := Coalescer.Threads.step_eq_some_iff.mp moved
      cases taken with
      | abort stands => exact running.sound 0 (running.held.eq_some stands rfl)

theorem running_of_run (running : Running watcher holder)
    (goesOn : ∀ turn ∈ turns, turn.fails = false)
    (ran : Schedule.run Watcher.step watcher turns = some final) :
    ∃ last, Running final last := by
  apply Schedule.invariant_of_run (fun watcher => ∃ holder, Running watcher holder) _
    ⟨holder, running⟩ ran
  rintro watcher turn next member ⟨holder, running⟩ stepped
  exact ⟨_, running.step (goesOn turn member) (step_of_eq_some stepped)⟩

/-! ## Renders that are owed -/

/-- A change at the path is still to be rendered. -/
def Owed (watcher : Watcher ℚ) (holder : Option (ℕ × Place)) (path : ℕ) : Prop :=
  Awaited watcher.threads holder ∨ watcher.Unnoticed path

/-- What is owed is owed until a render begins, unless the path is taken back. -/
theorem owed_step (running : Running watcher holder) (goesOn : turn.fails = false)
    (stepped : Step watcher turn next) (keeps : ¬watcher.Returns path turn)
    (owed : watcher.Owed holder path) :
    turn.beginsRender = true ∨ next.Owed (holderAfter holder turn) path := by
  rcases owed with awaited | unnoticed
  · cases stepped with
    | change _ => exact .inr (.inl awaited)
    | @render move threads inside moved =>
        have taken := Coalescer.Threads.step_eq_some_iff.mp moved
        have moveGoesOn : move.move ≠ .fail := by simpa [Turn.fails] using goesOn
        rcases Coalescer.Threads.awaited_step running.held running.sound awaited moveGoesOn taken
          with begins | awaited
        · left
          simp [Turn.beginsRender, begins]
        · exact .inr (.inl awaited)
    | lookFirst _ _ => exact .inr (.inl awaited)
    | lookAgain _ => exact .inr (.inl awaited)
    | glance _ _ => exact .inr (.inl awaited)
    | settle _ _ => exact .inr (.inl awaited)
    | ignore _ _ _ => exact .inr (.inl awaited)
    | notice _ _ _ =>
        exact .inr (.inl (.inl ⟨watcher.fresh, Coalescer.Threads.advance_place_self⟩))
  · right
    rcases unnoticed_step stepped (running.ne_abort stepped) keeps unnoticed with stays | asks
    · exact .inr stays
    · exact .inl (.inl ⟨watcher.fresh, asks⟩)

/-- Some turn takes the path back to the time at which it was seen last. -/
def TakesBack (path : ℕ) (watcher : Watcher ℚ) (turns : List (Turn ℚ)) : Prop :=
  Schedule.Occurs step (fun watcher turn => watcher.Returns path turn) watcher turns

/-- What is owed is still owed behind a run without a render. -/
theorem owed_of_run (running : Running watcher holder)
    (goesOn : ∀ turn ∈ turns, turn.fails = false)
    (rests : ∀ turn ∈ turns, turn.beginsRender = false) (keeps : ¬TakesBack path watcher turns)
    (owed : watcher.Owed holder path)
    (ran : Schedule.run step watcher turns = some final) :
    ∃ last, Running final last ∧ final.Owed last path := by
  apply Schedule.holds_of_run
    (fun watcher => ∃ holder, Running watcher holder ∧ watcher.Owed holder path) _
    ⟨holder, running, owed⟩ keeps ran
  rintro watcher turn next member ⟨holder, running, owed⟩ stays stepped
  have taken := step_of_eq_some stepped
  refine ⟨holderAfter holder turn, running.step (goesOn turn member) taken, ?_⟩
  rcases owed_step running (goesOn turn member) taken stays owed with begins | owed
  · rw [rests turn member] at begins
    cases begins
  · exact owed

/-! ## Main result -/

theorem changedSinceRender_eq_true_iff :
    changedSinceRender turns = true ↔
      ∃ earlier index time rest, turns = earlier ++ .change index time :: rest ∧
        ∀ turn ∈ rest, turn.beginsRender = false := by
  induction turns with
  | nil => simp [changedSinceRender]
  | cons turn turns ih =>
      rw [changedSinceRender, Bool.or_eq_true, ih]
      constructor
      · rintro (changes | ⟨earlier, index, time, rest, rfl, rests⟩)
        · cases turn with
          | change index time =>
              refine ⟨[], index, time, turns, rfl, ?_⟩
              simpa [Turn.isChange] using changes
          | render _ => cases changes
          | look => cases changes
          | glance => cases changes
          | compare => cases changes
        · exact ⟨turn :: earlier, index, time, rest, rfl, rests⟩
      · rintro ⟨earlier, index, time, rest, split, rests⟩
        rcases List.cons_eq_append_iff.mp split with ⟨rfl, same⟩ | ⟨before, rfl, rfl⟩
        · cases same
          left
          simpa [Turn.isChange] using rests
        · exact .inr ⟨before, index, time, rest, rfl, rests⟩

/-- A change with no render behind it that no look can tell: its path had not been looked at
yet, or is taken back to what had been seen there. -/
structure Overlooked (times : List (Option ℚ)) (earlier : List (Turn ℚ)) (path : ℕ)
    (time : Option ℚ) (rest : List (Turn ℚ)) : Prop where
  rests : ∀ turn ∈ rest, turn.beginsRender = false
  untold : ∃ watcher, after times earlier = some watcher ∧
    (watcher.glanced? path = none ∨ TakesBack path watcher (.change path time :: rest))

/-- Once a poll has been taken behind the last change, and no request is under way or to be
made, every change has a render that begins behind it, but for those that are overlooked. -/
theorem changedSinceRender_iff_overlooked (reached : after times turns = some final)
    (goesOn : turns.any Turn.fails = false) (polled : polledSinceChange turns = true)
    (quiet : final.Quiet) :
    changedSinceRender turns = true ↔
      ∃ earlier path time rest, turns = earlier ++ .change path time :: rest ∧
        Overlooked times earlier path time rest := by
  rw [changedSinceRender_eq_true_iff]
  constructor
  · rintro ⟨earlier, path, time, rest, rfl, rests⟩
    refine ⟨earlier, path, time, rest, rfl, rests, ?_⟩
    rw [List.any_eq_false] at goesOn
    have steady : ∀ turn ∈ earlier ++ .change path time :: rest, turn.fails = false :=
      fun turn member => Bool.eq_false_of_not_eq_true (goesOn turn member)
    rcases List.forall_mem_append.mp steady with ⟨earlierSteady, laterSteady⟩
    rcases List.forall_mem_cons.mp laterSteady with ⟨changeSteady, restSteady⟩
    rcases Schedule.run_append_eq_some_iff.mp reached with ⟨watcher, ranEarlier, ranLater⟩
    rcases Schedule.run_cons_eq_some_iff.mp ranLater with ⟨next, stepped, ranRest⟩
    rcases running_of_run (running_start times) earlierSteady ranEarlier with ⟨holder, running⟩
    refine ⟨watcher, ranEarlier, ?_⟩
    cases glanced : watcher.glanced? path with
    | none => exact .inl rfl
    | some seen =>
        right
        by_contra keeps
        rw [TakesBack, Schedule.occurs_cons_iff stepped, not_or] at keeps
        have taken := step_of_eq_some stepped
        have differs : time ≠ seen := by
          rintro rfl
          exact keeps.1 ⟨time, rfl, glanced⟩
        have owed : next.Owed (holderAfter holder (.change path time)) path :=
          .inr (.inl (unseen_of_change taken glanced differs))
        rcases owed_of_run (running.step changeSteady taken) restSteady rests keeps.2 owed
          ranRest with
          ⟨last, runningLast, awaited | unnoticed⟩
        · exact Coalescer.Threads.not_awaited_of_quiet runningLast.held quiet awaited
        · exact not_unnoticed_of_polled polled reached unnoticed
  · rintro ⟨earlier, path, time, rest, split, overlooked⟩
    exact ⟨earlier, path, time, rest, split, overlooked.rests⟩

/-! ## Two schedules -/

/-- Whether a schedule without failures comes to rest can be evaluated, since only threads
that have been started can be inside a request. -/
theorem exists_quiet (goesOn : turns.any Turn.fails = false)
    (rests : (after times turns).any fun final =>
      (List.range final.fresh).all fun thread => final.threads.place thread = .outside) :
    ∃ final, after times turns = some final ∧ final.Quiet := by
  rcases Option.any_eq_true _ _ |>.mp rests with ⟨final, reached, outside⟩
  rw [List.any_eq_false] at goesOn
  rcases running_of_run (running_start times)
    (fun turn member => Bool.eq_false_of_not_eq_true (goesOn turn member)) reached with
    ⟨holder, running⟩
  refine ⟨final, reached, fun thread => ?_⟩
  by_cases started : thread < final.fresh
  · exact of_decide_eq_true (List.all_eq_true.mp outside thread (List.mem_range.mpr started))
  · exact running.unstarted thread (Nat.le_of_not_lt started)

/-- The only path is changed during the first render, and looked at twice behind it. -/
def earlyChange : List (Turn ℚ) :=
  [.render ⟨0, .claim⟩, .render ⟨0, .begin⟩, .change 0 (some 2), .render ⟨0, .finish⟩,
    .render ⟨0, .leave⟩, .look, .glance, .compare, .look, .glance, .compare]

/-- No render fails, a poll has been taken behind the change and nothing is under way, and
yet the path has changed since the last render began. -/
theorem changedSinceRender_earlyChange :
    ∃ final, after [some 1] earlyChange = some final ∧ final.Quiet ∧
      earlyChange.any Turn.fails = false ∧ polledSinceChange earlyChange = true ∧
      changedSinceRender earlyChange = true := by
  have rests : ∃ final, after [some 1] earlyChange = some final ∧ final.Quiet :=
    exists_quiet (by decide) (by decide +kernel)
  rcases rests with ⟨final, reached, quiet⟩
  exact ⟨final, reached, quiet, by decide, by decide, by decide⟩

/-- The first change is overlooked, and the second one is noticed and rendered. -/
def lateChange : List (Turn ℚ) :=
  earlyChange ++
    [.look, .change 0 (some 3), .glance, .compare, .render ⟨1, .claim⟩, .look,
      .render ⟨1, .begin⟩, .glance, .render ⟨1, .finish⟩, .compare, .render ⟨1, .leave⟩,
      .look, .glance, .compare]

theorem not_overlooked_lateChange :
    ∃ final, after [some 1] lateChange = some final ∧ final.Quiet ∧
      ¬∃ earlier path time rest, lateChange = earlier ++ .change path time :: rest ∧
        Overlooked [some 1] earlier path time rest := by
  have goesOn : lateChange.any Turn.fails = false := by decide
  have polled : polledSinceChange lateChange = true := by decide
  have rendered : ¬changedSinceRender lateChange = true := by decide
  have rests : ∃ final, after [some 1] lateChange = some final ∧ final.Quiet :=
    exists_quiet goesOn (by decide +kernel)
  rcases rests with ⟨final, reached, quiet⟩
  refine ⟨final, reached, quiet, ?_⟩
  rwa [← changedSinceRender_iff_overlooked reached goesOn polled quiet]

end Montage.Watch.Watcher
