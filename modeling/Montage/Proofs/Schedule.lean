import Montage.Machine.Schedule
import Mathlib

/-!
# Events of a schedule

An event is a turn together with the state that it is taken in.  What every turn keeps
holds behind every schedule, and what every turn keeps but those that are a certain event
holds until the event occurs.
-/

namespace Montage.Schedule

variable {State Turn : Type} {step : State → Turn → Option State}
  {event ending : State → Turn → Prop} {start middle final : State} {turn : Turn}
  {turns first second : List Turn}

/-- The event occurs in the schedule. -/
def Occurs (step : State → Turn → Option State) (event : State → Turn → Prop) (start : State)
    (turns : List Turn) : Prop :=
  ∃ earlier turn rest state, turns = earlier ++ turn :: rest ∧
    run step start earlier = some state ∧ event state turn

/-- The event occurs in the schedule, and behind it the ending does not. -/
def Since (step : State → Turn → Option State) (event ending : State → Turn → Prop)
    (start : State) (turns : List Turn) : Prop :=
  ∃ earlier turn rest state next, turns = earlier ++ turn :: rest ∧
    run step start earlier = some state ∧ event state turn ∧ step state turn = some next ∧
    ¬Occurs step ending next rest

theorem not_occurs_nil : ¬Occurs step event start [] := by
  rintro ⟨earlier, turn, rest, _, split, _⟩
  exact List.append_ne_nil_of_right_ne_nil earlier (List.cons_ne_nil turn rest) split.symm

theorem occurs_cons_iff (stepped : step start turn = some middle) :
    Occurs step event start (turn :: turns) ↔
      event start turn ∨ Occurs step event middle turns := by
  constructor
  · rintro ⟨earlier, found, rest, state, split, ran, happens⟩
    rcases earlier with _ | ⟨head, earlier⟩
    · cases ran
      cases split
      exact .inl happens
    · cases split
      rcases run_cons_eq_some_iff.mp ran with ⟨next, steppedAgain, ranRest⟩
      cases stepped.symm.trans steppedAgain
      exact .inr ⟨earlier, found, rest, state, rfl, ranRest, happens⟩
  · rintro (happens | ⟨earlier, found, rest, state, rfl, ran, happens⟩)
    · exact ⟨[], turn, turns, start, rfl, rfl, happens⟩
    · refine ⟨turn :: earlier, found, rest, state, rfl, ?_, happens⟩
      exact run_cons_eq_some_iff.mpr ⟨middle, stepped, ran⟩

theorem not_occurs_cons (stepped : step start turn = some middle) (here : ¬event start turn)
    (later : ¬Occurs step event middle turns) : ¬Occurs step event start (turn :: turns) := by
  rw [occurs_cons_iff stepped, not_or]
  exact ⟨here, later⟩

theorem occurs_append_iff (ran : run step start first = some middle) :
    Occurs step event start (first ++ second) ↔
      Occurs step event start first ∨ Occurs step event middle second := by
  induction first generalizing start with
  | nil =>
      cases ran
      simp [not_occurs_nil]
  | cons turn first ih =>
      rcases run_cons_eq_some_iff.mp ran with ⟨next, stepped, ranRest⟩
      rw [List.cons_append, occurs_cons_iff stepped, occurs_cons_iff stepped, ih ranRest, or_assoc]

/-- What every turn keeps that is no such event holds until the event occurs. -/
theorem holds_of_run (holds : State → Prop)
    (kept : ∀ {state turn next}, turn ∈ turns → holds state → ¬event state turn →
      step state turn = some next → holds next)
    (starts : holds start) (none : ¬Occurs step event start turns)
    (ran : run step start turns = some final) : holds final := by
  induction turns generalizing start with
  | nil =>
      cases ran
      exact starts
  | cons turn turns ih =>
      rcases run_cons_eq_some_iff.mp ran with ⟨next, stepped, ranRest⟩
      rw [occurs_cons_iff stepped, not_or] at none
      apply ih _ (kept List.mem_cons_self starts none.1 stepped) none.2 ranRest
      intro state later next member
      exact kept (List.mem_cons_of_mem turn member)

/-- What every turn keeps holds behind every schedule. -/
theorem invariant_of_run (holds : State → Prop)
    (kept : ∀ {state turn next}, turn ∈ turns → holds state → step state turn = some next →
      holds next)
    (starts : holds start) (ran : run step start turns = some final) : holds final := by
  have never : ¬Occurs step (fun _ _ => False) start turns := by
    rintro ⟨_, _, _, _, _, _, happens⟩
    exact happens
  exact holds_of_run holds (fun member held _ => kept member held) starts never ran

/-- What only such an event brings about holds at the start or behind the event. -/
theorem occurs_of_run (holds : State → Prop)
    (brought : ∀ {state turn next}, holds next → step state turn = some next →
      holds state ∨ event state turn)
    (ends : holds final) (ran : run step start turns = some final) :
    holds start ∨ Occurs step event start turns := by
  by_contra neither
  rw [not_or] at neither
  have kept : ∀ {state turn next}, turn ∈ turns → ¬holds state → ¬event state turn →
      step state turn = some next → ¬holds next := by
    intro state turn next _ not_holds noEvent stepped held
    exact (brought held stepped).elim not_holds noEvent
  exact holds_of_run (fun state => ¬holds state) kept neither.1 neither.2 ran ends

/-- Where a thread stands behind a move, be it its own or that of another thread. -/
theorem move_eq_iff {Place : Type} {places : ℕ → Place} {thread other : ℕ} {place found : Place} :
    move places thread place other = found ↔
      other = thread ∧ place = found ∨ other ≠ thread ∧ places other = found := by
  by_cases moves : other = thread
  · simp [moves]
  · simp [move_of_ne places place moves, moves]

end Montage.Schedule
