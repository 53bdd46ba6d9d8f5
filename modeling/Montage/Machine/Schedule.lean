/-!
# Schedules

Threads take turns.  A schedule lists the turns in the order in which they happen,
and a machine says what each of them does to the state that the threads share and to
the place where the thread stands, or that it is not possible now.  Every
interleaving of the threads is a schedule, so what holds behind all schedules holds
whatever the threads do.
-/

namespace Montage.Schedule

variable {State Turn Place : Type}

/-- The state behind a schedule; none if one of its turns is not possible. -/
def run (step : State → Turn → Option State) : State → List Turn → Option State
  | state, [] => some state
  | state, turn :: turns => (step state turn).bind fun next => run step next turns

/-- A schedule can be cut anywhere. -/
theorem run_append (step : State → Turn → Option State) (state : State)
    (first second : List Turn) :
    run step state (first ++ second) =
      (run step state first).bind fun middle => run step middle second := by
  induction first generalizing state with
  | nil => rfl
  | cons turn turns ih => simp [run, Option.bind_assoc, ih]

theorem run_cons_eq_some_iff {step : State → Turn → Option State} {state final : State}
    {turn : Turn} {turns : List Turn} :
    run step state (turn :: turns) = some final ↔
      ∃ next, step state turn = some next ∧ run step next turns = some final :=
  Option.bind_eq_some_iff

theorem run_append_eq_some_iff {step : State → Turn → Option State} {state final : State}
    {first second : List Turn} :
    run step state (first ++ second) = some final ↔
      ∃ middle, run step state first = some middle ∧ run step middle second = some final := by
  rw [run_append]
  exact Option.bind_eq_some_iff

/-- The places of all threads after one of them has moved. -/
def move (places : Nat → Place) (thread : Nat) (place : Place) : Nat → Place :=
  fun other => if other = thread then place else places other

@[simp]
theorem move_self (places : Nat → Place) (thread : Nat) (place : Place) :
    move places thread place thread = place := by
  simp [move]

/-- All other threads stay where they are. -/
theorem move_of_ne (places : Nat → Place) {thread other : Nat} (place : Place)
    (different : other ≠ thread) : move places thread place other = places other := by
  simp [move, different]

end Montage.Schedule
