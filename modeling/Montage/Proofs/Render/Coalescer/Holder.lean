import Montage.Render.Coalescer.Threads
import Mathlib

/-!
# The holder of a coalescer

From its claim until it leaves, a thread holds the coalescer: it is about to render,
renders or has rendered.  The flags say whether some thread does, and every turn of any
thread keeps them in agreement with the places of all threads.  So at most one thread
holds the coalescer, and none does once all threads are outside.
-/

namespace Montage.Coalescer

/-! ## Sections under the lock -/

theorem request_declines_iff {state after : Coalescer} :
    state.request = (false, after) ↔
      state.running = true ∧ after = { state with pending := true } := by
  cases running : state.running <;> simp [request, running, @eq_comm _ after]

theorem request_claims_iff {state after : Coalescer} :
    state.request = (true, after) ↔
      state.running = false ∧ after = { state with running := true } := by
  cases running : state.running <;> simp [request, running, @eq_comm _ after]

theorem settle_again_iff {state after : Coalescer} :
    state.settle = (true, after) ↔
      state.pending = true ∧ after = { state with pending := false } := by
  cases pending : state.pending <;> simp [settle, pending, @eq_comm _ after]

theorem settle_leaves_iff {state after : Coalescer} :
    state.settle = (false, after) ↔
      state.pending = false ∧ after = { state with running := false } := by
  cases pending : state.pending <;> simp [settle, pending, @eq_comm _ after]

/-! ## Turns -/

/-- Whether a thread that stands here holds the coalescer. -/
def Place.holds : Place → Bool
  | runner | rendering | rendered | failed => true
  | outside | asking => false

namespace Threads

variable {threads next final : Threads} {turn : Turn} {turns : List Turn}

/-- What a turn of a thread asks of the threads, and what it makes of them. -/
inductive Step (threads : Threads) (thread : ℕ) : Move → Threads → Prop
  | call (stands : threads.place thread = .outside) :
      Step threads thread .call (threads.advance thread .asking threads.state)
  | decline (stands : threads.place thread = .asking) (held : threads.state.running = true) :
      Step threads thread .decline
        (threads.advance thread .outside { threads.state with pending := true })
  | claim (stands : threads.place thread = .asking) (free : threads.state.running = false) :
      Step threads thread .claim
        (threads.advance thread .runner { threads.state with running := true })
  | begin (stands : threads.place thread = .runner) :
      Step threads thread .begin (threads.advance thread .rendering threads.state)
  | finish (stands : threads.place thread = .rendering) :
      Step threads thread .finish (threads.advance thread .rendered threads.state)
  | fail (stands : threads.place thread = .rendering) :
      Step threads thread .fail (threads.advance thread .failed threads.state)
  | again (stands : threads.place thread = .rendered)
      (marked : threads.state.pending = true) :
      Step threads thread .again
        (threads.advance thread .runner { threads.state with pending := false })
  | leave (stands : threads.place thread = .rendered)
      (unmarked : threads.state.pending = false) :
      Step threads thread .leave
        (threads.advance thread .outside { threads.state with running := false })
  | abort (stands : threads.place thread = .failed) :
      Step threads thread .abort (threads.advance thread .outside .idle)

private theorem step_of_eq_some (stepped : threads.step turn = some next) :
    Step threads turn.thread turn.move next := by
  rcases turn with ⟨thread, move⟩
  simp only [step] at stepped
  split at stepped
  · rename_i stands
    cases stepped
    exact .call stands
  · rename_i stands
    split at stepped
    · rename_i asked
      rcases request_declines_iff.mp asked with ⟨held, rfl⟩
      cases stepped
      exact .decline stands held
    · cases stepped
  · rename_i stands
    split at stepped
    · rename_i asked
      rcases request_claims_iff.mp asked with ⟨free, rfl⟩
      cases stepped
      exact .claim stands free
    · cases stepped
  · rename_i stands
    cases stepped
    exact .begin stands
  · rename_i stands
    cases stepped
    exact .finish stands
  · rename_i stands
    cases stepped
    exact .fail stands
  · rename_i stands
    split at stepped
    · rename_i asked
      rcases settle_again_iff.mp asked with ⟨marked, rfl⟩
      cases stepped
      exact .again stands marked
    · cases stepped
  · rename_i stands
    split at stepped
    · rename_i asked
      rcases settle_leaves_iff.mp asked with ⟨unmarked, rfl⟩
      cases stepped
      exact .leave stands unmarked
    · cases stepped
  · rename_i stands
    cases stepped
    exact .abort stands
  · cases stepped

/-- A turn is possible exactly when its thread stands where it begins and the flags allow
it. -/
theorem step_eq_some_iff :
    threads.step turn = some next ↔ Step threads turn.thread turn.move next := by
  constructor
  · exact step_of_eq_some
  · rcases turn with ⟨thread, move⟩
    intro taken
    cases taken with
    | call stands => simp [step, stands]
    | decline stands held => simp [step, stands, request_declines_iff.mpr ⟨held, rfl⟩]
    | claim stands free => simp [step, stands, request_claims_iff.mpr ⟨free, rfl⟩]
    | begin stands => simp [step, stands]
    | finish stands => simp [step, stands]
    | fail stands => simp [step, stands]
    | again stands marked => simp [step, stands, settle_again_iff.mpr ⟨marked, rfl⟩]
    | leave stands unmarked => simp [step, stands, settle_leaves_iff.mpr ⟨unmarked, rfl⟩]
    | abort stands => simp [step, stands, Coalescer.abort]

/-! ## The holder -/

/-- The flags agree on which thread holds the coalescer and where it stands, if any
does. -/
structure Held (threads : Threads) (holder : Option (ℕ × Place)) : Prop where
  running : threads.state.running = holder.isSome
  marked : threads.state.pending = true → holder.isSome = true
  holds : ∀ thread, (threads.place thread).holds = true →
    holder = some (thread, threads.place thread)
  stands : ∀ thread place, holder = some (thread, place) →
    place.holds = true ∧ threads.place thread = place

/-- Who holds the coalescer behind a turn. -/
def holderAfter (holder : Option (ℕ × Place)) (thread : ℕ) : Move → Option (ℕ × Place)
  | .call | .decline => holder
  | .claim | .again => some (thread, .runner)
  | .begin => some (thread, .rendering)
  | .finish => some (thread, .rendered)
  | .fail => some (thread, .failed)
  | .leave | .abort => none

variable {holder : Option (ℕ × Place)} {thread : ℕ} {place : Place} {state : Coalescer}

@[simp]
theorem advance_state : (threads.advance thread place state).state = state :=
  rfl

@[simp]
theorem advance_place_self : (threads.advance thread place state).place thread = place :=
  Schedule.move_self _ _ _

theorem advance_place_of_ne {other : ℕ} (different : other ≠ thread) :
    (threads.advance thread place state).place other = threads.place other :=
  Schedule.move_of_ne _ _ different

theorem held_idle : Held idle none := by
  constructor
  · rfl
  · intro marked
    cases marked
  · intro thread holds
    cases holds
  · intro thread place absurd
    cases absurd

theorem Held.eq_some (held : Held threads holder) (stands : threads.place thread = place)
    (holds : place.holds = true) : holder = some (thread, place) := by
  subst stands
  exact held.holds thread holds

/-- A thread that holds the coalescer is the only one. -/
theorem Held.eq (held : Held threads holder) {first second : ℕ}
    (firstHolds : (threads.place first).holds = true)
    (secondHolds : (threads.place second).holds = true) : first = second := by
  have same := (held.holds first firstHolds).symm.trans (held.holds second secondHolds)
  exact congrArg Prod.fst (Option.some.inj same)

/-- A thread that does not hold the coalescer goes on without it. -/
theorem Held.pass (held : Held threads holder)
    (without : (threads.place thread).holds = false) (goes : place.holds = false)
    (running : state.running = threads.state.running)
    (marked : state.pending = true → state.running = true) :
    Held (threads.advance thread place state) holder := by
  constructor
  · exact running.trans held.running
  · intro pending
    rw [← held.running, ← running]
    exact marked pending
  · intro other holds
    by_cases same : other = thread
    · subst same
      simp [goes] at holds
    · rw [advance_place_of_ne same] at holds ⊢
      exact held.holds other holds
  · intro other elsewhere found
    rcases held.stands other elsewhere found with ⟨holds, stands⟩
    have different : other ≠ thread := by
      rintro rfl
      rw [stands, holds] at without
      cases without
    exact ⟨holds, (advance_place_of_ne different).trans stands⟩

/-- A thread takes hold of the coalescer, or moves on while it holds it. -/
theorem Held.hold (goes : place.holds = true)
    (running : state.running = true)
    (others : ∀ other, other ≠ thread → (threads.place other).holds = false) :
    Held (threads.advance thread place state) (some (thread, place)) := by
  constructor
  · exact running
  · intro _
    rfl
  · intro other holds
    by_cases same : other = thread
    · subst same
      simp
    · rw [advance_place_of_ne same, others other same] at holds
      cases holds
  · intro other elsewhere found
    cases found
    exact ⟨goes, advance_place_self⟩

/-- The holder lets the coalescer go. -/
theorem Held.release (goes : place.holds = false)
    (running : state.running = false) (unmarked : state.pending = false)
    (others : ∀ other, other ≠ thread → (threads.place other).holds = false) :
    Held (threads.advance thread place state) none := by
  constructor
  · exact running
  · intro pending
    exact absurd pending (by simp [unmarked])
  · intro other holds
    by_cases same : other = thread
    · subst same
      simp [goes] at holds
    · rw [advance_place_of_ne same, others other same] at holds
      cases holds
  · intro other elsewhere found
    cases found

/-- While a thread holds the coalescer, no other does. -/
theorem Held.others (held : Held threads holder) (stands : threads.place thread = place)
    (holds : place.holds = true) :
    threads.state.running = true ∧
      ∀ other, other ≠ thread → (threads.place other).holds = false := by
  subst stands
  constructor
  · rw [held.running, held.holds thread holds]
    rfl
  · intro other different
    rw [← Bool.not_eq_true]
    intro otherHolds
    exact different (held.eq otherHolds holds)

/-- While the coalescer is free, no thread holds it. -/
theorem Held.free (held : Held threads holder) (free : threads.state.running = false) :
    ∀ other, (threads.place other).holds = false := by
  intro other
  rw [← Bool.not_eq_true]
  intro holds
  rw [(held.others rfl holds).1] at free
  cases free

theorem Held.eq_none_of_free (held : Held threads holder)
    (free : threads.state.running = false) : holder = none := by
  rw [← Option.not_isSome_iff_eq_none, ← held.running, free]
  exact Bool.false_ne_true

/-- Every turn hands the coalescer on as `holderAfter` says. -/
theorem Held.step {move : Move} (held : Held threads holder)
    (stepped : Step threads thread move next) :
    Held next (holderAfter holder thread move) := by
  have marked : threads.state.pending = true → threads.state.running = true := by
    rw [held.running]
    exact held.marked
  cases stepped with
  | call stands => exact held.pass (by rw [stands]; rfl) rfl rfl marked
  | decline stands running => exact held.pass (by rw [stands]; rfl) rfl rfl fun _ => running
  | claim stands free => exact .hold rfl rfl fun other _ => held.free free other
  | begin stands =>
      rcases held.others stands rfl with ⟨running, others⟩
      exact .hold rfl running others
  | finish stands =>
      rcases held.others stands rfl with ⟨running, others⟩
      exact .hold rfl running others
  | fail stands =>
      rcases held.others stands rfl with ⟨running, others⟩
      exact .hold rfl running others
  | again stands _ =>
      rcases held.others stands rfl with ⟨running, others⟩
      exact .hold rfl running others
  | leave stands unmarked =>
      rcases held.others stands rfl with ⟨_, others⟩
      exact .release rfl rfl unmarked others
  | abort stands =>
      rcases held.others stands rfl with ⟨_, others⟩
      exact .release rfl rfl rfl others

/-! ## Schedules -/

/-- Behind every schedule the flags agree on a holder, and what its turns preserve of a
holder is true of that one. -/
theorem Held.run (held : Held threads holder) (kept : Option (ℕ × Place) → Prop)
    (begins : kept holder)
    (preserved : ∀ turn ∈ turns, ∀ holder, kept holder →
      kept (holderAfter holder turn.thread turn.move))
    (ran : Schedule.run Threads.step threads turns = some final) :
    ∃ last, Held final last ∧ kept last := by
  induction turns generalizing threads holder with
  | nil =>
      cases ran
      exact ⟨holder, held, begins⟩
  | cons turn turns ih =>
      rcases Schedule.run_cons_eq_some_iff.mp ran with ⟨next, stepped, ranRest⟩
      rcases List.forall_mem_cons.mp preserved with ⟨turnPreserves, restPreserves⟩
      exact ih (held.step (step_eq_some_iff.mp stepped)) (turnPreserves holder begins)
        restPreserves ranRest

/-- A thread stands still while others take their turns. -/
theorem Step.place_of_ne {move : Move} {other : ℕ} (stepped : Step threads thread move next)
    (different : other ≠ thread) : next.place other = threads.place other := by
  cases stepped <;> exact advance_place_of_ne different

theorem place_of_run {other : ℕ} (absent : ∀ turn ∈ turns, turn.thread ≠ other)
    (ran : Schedule.run step threads turns = some final) :
    final.place other = threads.place other := by
  induction turns generalizing threads with
  | nil =>
      cases ran
      rfl
  | cons turn turns ih =>
      rcases Schedule.run_cons_eq_some_iff.mp ran with ⟨next, stepped, ranRest⟩
      rcases List.forall_mem_cons.mp absent with ⟨turnAbsent, restAbsent⟩
      rw [ih restAbsent ranRest, (step_eq_some_iff.mp stepped).place_of_ne turnAbsent.symm]

/-- Only threads that take turns can end inside a request. -/
theorem quiet_of_run (reached : after turns = some final)
    (outside : ∀ turn ∈ turns, final.place turn.thread = .outside) : final.Quiet := by
  intro thread
  by_cases takesTurn : ∃ turn ∈ turns, turn.thread = thread
  · rcases takesTurn with ⟨turn, member, rfl⟩
    exact outside turn member
  · rw [place_of_run (fun turn member same => takesTurn ⟨turn, member, same⟩) reached]
    rfl

/-- Nobody holds the coalescer while all threads are outside. -/
theorem Held.eq_none_of_quiet (held : Held threads holder) (quiet : threads.Quiet) :
    holder = none := by
  cases holder with
  | none => rfl
  | some found =>
      rcases found with ⟨thread, place⟩
      rcases held.stands thread place rfl with ⟨holds, stands⟩
      rw [quiet thread] at stands
      rw [← stands] at holds
      cases holds

end Threads

end Montage.Coalescer
