import Montage.Proofs.Render.Coalescer.Holder

/-!
# Renders and answers

A mark is only left while the coalescer is held, and its holder does not leave before it
has taken the mark back and rendered once more.  So every render is paid for: by the
answer of the runner that leaves behind it, or by the round before it, if that was
disturbed.  What one turn does to this account is a lemma, and the account of a whole
schedule follows by induction on its turns.
-/

namespace Montage.Coalescer

/-! ## Counts -/

theorem count_cons (move : Move) (turn : Turn) (turns : List Turn) :
    count move (turn :: turns) = count move turns + if turn.move = move then 1 else 0 := by
  simp [count, List.countP_cons]

theorem declinedBefore_cons (ends : Move → Bool) (turn : Turn) (turns : List Turn) :
    declinedBefore ends (turn :: turns) =
      (!ends turn.move && (decide (turn.move = .decline) || declinedBefore ends turns)) := by
  cases stops : ends turn.move <;> simp [declinedBefore, stops, Bool.beq_eq_decide_eq]

theorem disturbedRounds_cons (turn : Turn) (turns : List Turn) :
    disturbedRounds (turn :: turns) =
      (turn.move.opensRound && declinedBefore Move.closesRound turns).toNat +
        disturbedRounds turns := by
  rw [disturbedRounds]
  cases turn.move.opensRound && declinedBefore Move.closesRound turns <;> rfl

namespace Threads

variable {threads next final : Threads} {turn : Turn} {turns : List Turn}
  {holder : Option (ℕ × Place)} {thread : ℕ}

/-! ## Schedules without a failure -/

/-- The holder has not failed. -/
def Sound (holder : Option (ℕ × Place)) : Prop :=
  ∀ thread, holder ≠ some (thread, .failed)

theorem sound_none : Sound none := by
  intro thread found
  cases found

theorem sound_holderAfter {move : Move} (sound : Sound holder) (goesOn : move ≠ .fail) :
    Sound (holderAfter holder thread move) := by
  intro other found
  cases move with
  | call => exact sound other found
  | decline => exact sound other found
  | fail => exact goesOn rfl
  | claim => cases found
  | begin => cases found
  | finish => cases found
  | again => cases found
  | leave => cases found
  | abort => cases found

/-- No turn of a schedule fails. -/
def GoesOn (turns : List Turn) : Prop :=
  ∀ turn ∈ turns, turn.move ≠ .fail

theorem goesOn_iff : GoesOn turns ↔ count .fail turns = 0 := by
  simp [GoesOn, count, List.countP_eq_zero]

/-- A run without a failure, along with the holder before each of its turns. -/
inductive Unfailing (final : Threads) : Threads → Option (ℕ × Place) → List Turn → Prop
  | nil {holder : Option (ℕ × Place)} (held : Held final holder) :
      Unfailing final final holder []
  | cons {threads next : Threads} {holder : Option (ℕ × Place)} {turn : Turn}
      {turns : List Turn} (held : Held threads holder) (sound : Sound holder)
      (goesOn : turn.move ≠ .fail) (stepped : threads.step turn = some next)
      (rest : Unfailing final next (holderAfter holder turn.thread turn.move) turns) :
      Unfailing final threads holder (turn :: turns)

theorem unfailing_of_run (held : Held threads holder) (sound : Sound holder)
    (goesOn : GoesOn turns) (ran : Schedule.run step threads turns = some final) :
    Unfailing final threads holder turns := by
  induction turns generalizing threads holder with
  | nil =>
      cases ran
      exact .nil held
  | cons turn turns ih =>
      rcases Schedule.run_cons_eq_some_iff.mp ran with ⟨next, stepped, ranRest⟩
      rcases List.forall_mem_cons.mp goesOn with ⟨turnGoesOn, restGoesOn⟩
      exact .cons held sound turnGoesOn stepped
        (ih (held.step (step_eq_some_iff.mp stepped)) (sound_holderAfter sound turnGoesOn)
          restGoesOn ranRest)

/-! ## The account -/

/-- One if the holder has begun its render. -/
def begun : Option (ℕ × Place) → ℕ
  | some (_, .rendering) | some (_, .rendered) => 1
  | _ => 0

/-- One if the coalescer is held and a mark is left on it, now or later in the round. -/
def owed (holder : Option (ℕ × Place)) (state : Coalescer) (turns : List Turn) : ℕ :=
  (holder.isSome && (state.pending || declinedBefore Move.closesRound turns)).toNat

/-- What is begun and what is owed pay for each other at every turn. -/
theorem tally_step (held : Held threads holder) (sound : Sound holder) (goesOn : turn.move ≠ .fail)
    (stepped : Step threads turn.thread turn.move next)
    (tally : begun (holderAfter holder turn.thread turn.move) + count .begin turns =
      count .leave turns + disturbedRounds turns +
        owed (holderAfter holder turn.thread turn.move) next.state turns) :
    begun holder + count .begin (turn :: turns) =
      count .leave (turn :: turns) + disturbedRounds (turn :: turns) +
        owed holder threads.state (turn :: turns) := by
  rcases turn with ⟨thread, move⟩
  simp only [count_cons, disturbedRounds_cons, owed, declinedBefore_cons] at tally ⊢
  cases stepped with
  | call stands => simpa [holderAfter, Move.opensRound, Move.closesRound] using tally
  | decline stands running =>
      have held_some : holder.isSome = true := held.running.symm.trans running
      simpa [holderAfter, Move.opensRound, Move.closesRound, held_some] using tally
  | claim stands free =>
      cases held.eq_none_of_free free
      have unmarked : threads.state.pending = false := by
        rw [← Bool.not_eq_true]
        exact fun marked => Bool.false_ne_true (held.marked marked)
      have paid : count .begin turns = count .leave turns + disturbedRounds turns +
          (declinedBefore Move.closesRound turns).toNat := by
        simpa [holderAfter, begun, unmarked] using tally
      have opened : count .begin turns = count .leave turns +
          ((declinedBefore Move.closesRound turns).toNat + disturbedRounds turns) := by
        omega
      simpa [begun, Move.opensRound] using opened
  | begin stands =>
      cases held.eq_some stands rfl
      simpa [holderAfter, begun, Move.opensRound, Move.closesRound, Nat.add_comm] using tally
  | finish stands =>
      cases held.eq_some stands rfl
      simpa [holderAfter, Move.opensRound, Move.closesRound, begun] using tally
  | fail stands => exact absurd rfl goesOn
  | again stands marked =>
      cases held.eq_some stands rfl
      have paid : count .begin turns = count .leave turns + disturbedRounds turns +
          (declinedBefore Move.closesRound turns).toNat := by
        simpa [holderAfter, begun] using tally
      -- The render that has just ended pays for the mark, which opens the next round.
      have reopened : 1 + count .begin turns = count .leave turns +
          ((declinedBefore Move.closesRound turns).toNat + disturbedRounds turns) + 1 := by
        omega
      simpa [begun, marked, Move.opensRound, Move.closesRound] using reopened
  | leave stands unmarked =>
      cases held.eq_some stands rfl
      have paid : count .begin turns = count .leave turns + disturbedRounds turns := by
        simpa [holderAfter, begun] using tally
      have answered : 1 + count .begin turns = count .leave turns + 1 + disturbedRounds turns := by
        omega
      simpa [begun, unmarked, Move.opensRound, Move.closesRound] using answered
  | abort stands => exact absurd (held.eq_some stands rfl) (sound thread)

/-- Until all threads are outside, every render that is begun is paid for by an answer, a
disturbed round, or the mark that is on the coalescer. -/
theorem Unfailing.tally (unfailing : Unfailing final threads holder turns)
    (quiet : final.Quiet) :
    begun holder + count .begin turns =
      count .leave turns + disturbedRounds turns + owed holder threads.state turns := by
  induction unfailing with
  | nil held =>
      cases held.eq_none_of_quiet quiet
      rfl
  | cons held sound goesOn stepped rest ih =>
      exact tally_step held sound goesOn (step_eq_some_iff.mp stepped) ih

/-! ## Answers -/

/-- A mark is left on the coalescer, or its holder is about to render. -/
def Due (holder : Option (ℕ × Place)) (state : Coalescer) : Prop :=
  state.pending = true ∨ ∃ thread, holder = some (thread, .runner)

/-- What is due stays due until a render begins. -/
theorem due_step (held : Held threads holder) (sound : Sound holder) (due : Due holder threads.state)
    (goesOn : turn.move ≠ .fail) (stepped : Step threads turn.thread turn.move next) :
    turn.move = .begin ∨ Due (holderAfter holder turn.thread turn.move) next.state := by
  rcases turn with ⟨thread, move⟩
  cases stepped with
  | call stands => exact .inr due
  | decline stands running => exact .inr (.inl rfl)
  | claim stands free => exact .inr (.inr ⟨thread, rfl⟩)
  | begin stands => exact .inl rfl
  | finish stands =>
      cases held.eq_some stands rfl
      rcases due with marked | ⟨other, elsewhere⟩
      · exact .inr (.inl marked)
      · cases elsewhere
  | fail stands => exact absurd rfl goesOn
  | again stands marked => exact .inr (.inr ⟨thread, rfl⟩)
  | leave stands unmarked =>
      cases held.eq_some stands rfl
      rcases due with marked | ⟨other, elsewhere⟩
      · rw [unmarked] at marked
        cases marked
      · cases elsewhere
  | abort stands => exact absurd (held.eq_some stands rfl) (sound thread)

/-- What is due is rendered before all threads are outside. -/
theorem Unfailing.exists_begin (unfailing : Unfailing final threads holder turns)
    (due : Due holder threads.state) (quiet : final.Quiet) :
    ∃ turn ∈ turns, turn.move = .begin := by
  induction unfailing with
  | nil held =>
      cases held.eq_none_of_quiet quiet
      rcases due with marked | ⟨thread, elsewhere⟩
      · exact absurd (held.marked marked) Bool.false_ne_true
      · cases elsewhere
  | cons held sound goesOn stepped rest ih =>
      rcases due_step held sound due goesOn (step_eq_some_iff.mp stepped) with begins | stillDue
      · exact ⟨_, List.mem_cons_self, begins⟩
      · rcases ih stillDue with ⟨found, member, begins⟩
        exact ⟨found, List.mem_cons_of_mem _ member, begins⟩

/-- Every request that is declined is followed by a render. -/
theorem served_of_quiet (goesOn : GoesOn turns) (reached : after turns = some final)
    (quiet : final.Quiet) : Served turns := by
  rintro earlier thread rest rfl
  rcases List.forall_mem_append.mp goesOn with ⟨earlierGoesOn, laterGoesOn⟩
  rcases List.forall_mem_cons.mp laterGoesOn with ⟨_, restGoesOn⟩
  rw [after, Schedule.run_append] at reached
  rcases Option.bind_eq_some_iff.mp reached with ⟨middle, ranEarlier, ranLater⟩
  rcases Schedule.run_cons_eq_some_iff.mp ranLater with ⟨next, stepped, ranRest⟩
  rcases held_idle.run Sound sound_none
    (fun turn member _ sound => sound_holderAfter sound (earlierGoesOn turn member))
    ranEarlier with ⟨holder, held, sound⟩
  have taken := step_eq_some_iff.mp stepped
  have due : Due holder next.state := by
    cases taken with
    | decline stands running => exact .inl rfl
  exact (unfailing_of_run (held.step taken) sound restGoesOn ranRest).exists_begin due quiet

/-! ## Rounds and renders -/

/-- Requests are only declined while some thread is in its render, and not in the moments
before and behind it. -/
def DeclinesInRenders (threads : Threads) (turns : List Turn) : Prop :=
  ∀ earlier thread rest middle, turns = earlier ++ ⟨thread, .decline⟩ :: rest →
    Schedule.run step threads earlier = some middle → ∃ other, middle.place other = .rendering

theorem DeclinesInRenders.tail (declines : DeclinesInRenders threads (turn :: turns))
    (stepped : threads.step turn = some next) : DeclinesInRenders next turns := by
  intro earlier thread rest middle turns_eq ran
  apply declines (turn :: earlier) thread rest middle
  · rw [turns_eq, List.cons_append]
  · exact Schedule.run_cons_eq_some_iff.mpr ⟨next, stepped, ran⟩

theorem DeclinesInRenders.exists_rendering
    (declines : DeclinesInRenders threads (⟨thread, .decline⟩ :: turns)) :
    ∃ other, threads.place other = .rendering :=
  declines [] thread turns threads rfl rfl

/-- Behind a render nobody is declined in the round. -/
theorem Unfailing.declinedBefore_of_rendered (unfailing : Unfailing final threads holder turns)
    (stands : holder = some (thread, .rendered)) (declines : DeclinesInRenders threads turns) :
    declinedBefore Move.closesRound turns = false := by
  induction unfailing with
  | nil held => rfl
  | cons held sound goesOn stepped rest ih =>
      rename_i turn turns
      have later := declines.tail stepped
      have taken := step_eq_some_iff.mp stepped
      rcases turn with ⟨mover, move⟩
      subst stands
      rw [declinedBefore_cons]
      cases taken with
      | call _ => simpa [Move.closesRound] using ih rfl later
      | decline _ _ =>
          rcases declines.exists_rendering with ⟨other, renders⟩
          cases held.eq_some renders rfl
      | claim _ free => cases held.eq_none_of_free free
      | begin elsewhere => cases held.eq_some elsewhere rfl
      | finish elsewhere => cases held.eq_some elsewhere rfl
      | fail elsewhere => cases held.eq_some elsewhere rfl
      | again _ _ => rfl
      | leave _ _ => rfl
      | abort _ => rfl

/-- Once the render has begun, its round is disturbed exactly when it is. -/
theorem Unfailing.declinedBefore_of_rendering
    (unfailing : Unfailing final threads holder turns)
    (stands : holder = some (thread, .rendering)) (declines : DeclinesInRenders threads turns) :
    declinedBefore Move.closesRound turns = declinedBefore Move.endsRender turns := by
  induction unfailing with
  | nil held => rfl
  | cons held sound goesOn stepped rest ih =>
      rename_i turn turns
      have later := declines.tail stepped
      have taken := step_eq_some_iff.mp stepped
      rcases turn with ⟨mover, move⟩
      subst stands
      rw [declinedBefore_cons, declinedBefore_cons]
      cases taken with
      | call _ => simpa [Move.closesRound, Move.endsRender] using ih rfl later
      | decline _ _ => rfl
      | claim _ free => cases held.eq_none_of_free free
      | begin elsewhere => cases held.eq_some elsewhere rfl
      | finish _ =>
          have quiet := rest.declinedBefore_of_rendered rfl later
          simp [Move.closesRound, Move.endsRender, quiet]
      | fail _ => exact absurd rfl goesOn
      | again elsewhere _ => cases held.eq_some elsewhere rfl
      | leave elsewhere _ => cases held.eq_some elsewhere rfl
      | abort elsewhere => cases held.eq_some elsewhere rfl

/-- Whether the holder is about to render. -/
def prepares : Option (ℕ × Place) → Bool
  | some (_, .runner) => true
  | _ => false

theorem disturbedRenders_cons (turn : Turn) (turns : List Turn) :
    disturbedRenders (turn :: turns) =
      (decide (turn.move = .begin) && declinedBefore Move.endsRender turns).toNat +
        disturbedRenders turns := by
  rw [disturbedRenders, Bool.beq_eq_decide_eq]
  cases decide (turn.move = .begin) && declinedBefore Move.endsRender turns <;> rfl

/-- A round whose render is still to come is not yet counted among the renders. -/
theorem Unfailing.disturbedRenders_eq (unfailing : Unfailing final threads holder turns)
    (declines : DeclinesInRenders threads turns) :
    disturbedRenders turns =
      disturbedRounds turns + (prepares holder && declinedBefore Move.closesRound turns).toNat := by
  induction unfailing with
  | nil held => simp [disturbedRenders, disturbedRounds, declinedBefore]
  | cons held sound goesOn stepped rest ih =>
      rename_i turn turns
      have later := declines.tail stepped
      have taken := step_eq_some_iff.mp stepped
      rcases turn with ⟨mover, move⟩
      rw [disturbedRenders_cons, disturbedRounds_cons, declinedBefore_cons, ih later]
      cases taken with
      | call stands => simp [holderAfter, Move.opensRound, Move.closesRound]
      | decline stands running =>
          rcases declines.exists_rendering with ⟨other, renders⟩
          cases held.eq_some renders rfl
          simp [holderAfter, prepares, Move.opensRound]
      | claim stands free =>
          cases held.eq_none_of_free free
          simp [holderAfter, prepares, Move.opensRound, Nat.add_comm]
      | begin stands =>
          cases held.eq_some stands rfl
          have same := rest.declinedBefore_of_rendering rfl later
          simp [holderAfter, prepares, Move.opensRound, Move.closesRound, same, Nat.add_comm]
      | finish stands =>
          cases held.eq_some stands rfl
          simp [holderAfter, prepares, Move.opensRound]
      | fail stands => exact absurd rfl goesOn
      | again stands marked =>
          cases held.eq_some stands rfl
          simp [holderAfter, prepares, Move.opensRound, Nat.add_comm]
      | leave stands unmarked =>
          cases held.eq_some stands rfl
          simp [holderAfter, prepares, Move.opensRound]
      | abort stands => exact absurd (held.eq_some stands rfl) (sound mover)

/-! ## Main result -/

/-- Whatever the threads do, at most one render is in progress at a time.  If none fails,
then once all threads are outside, the renders are those that are answered for and one
more for every round that was disturbed, and every request that was declined is followed
by a render.  A round is the render with the moments in which the coalescer counts it as
running; where requests are declined in renders only, disturbed rounds are disturbed
renders. -/
theorem renders_coalesced (reached : after turns = some final) :
    (∀ first second, final.place first = .rendering → final.place second = .rendering →
        first = second) ∧
      (final.Quiet → count .fail turns = 0 →
        count .begin turns = count .leave turns + disturbedRounds turns ∧
          Served turns ∧
          (DeclinesInRenders idle turns → disturbedRounds turns = disturbedRenders turns)) := by
  constructor
  · intro first second firstRenders secondRenders
    rcases held_idle.run (fun _ => True) trivial (fun _ _ _ _ => trivial) reached with
      ⟨holder, held, _⟩
    exact held.eq (by rw [firstRenders]; rfl) (by rw [secondRenders]; rfl)
  · intro quiet unfailed
    have goesOn := goesOn_iff.mpr unfailed
    have unfailing := unfailing_of_run held_idle sound_none goesOn reached
    refine ⟨?_, served_of_quiet goesOn reached quiet, ?_⟩
    · simpa [begun, owed] using unfailing.tally quiet
    · intro declines
      simpa [prepares] using (unfailing.disturbedRenders_eq declines).symm

/-- Two threads beside a runner are declined, one in its render and one behind it. -/
def busySchedule : List Turn :=
  [⟨0, .call⟩, ⟨1, .call⟩, ⟨0, .claim⟩, ⟨2, .call⟩, ⟨0, .begin⟩, ⟨1, .decline⟩, ⟨0, .finish⟩,
    ⟨0, .again⟩, ⟨0, .begin⟩, ⟨0, .finish⟩, ⟨2, .decline⟩, ⟨0, .again⟩, ⟨0, .begin⟩,
    ⟨0, .finish⟩, ⟨0, .leave⟩]

theorem renders_busySchedule :
    ∃ final, after busySchedule = some final ∧ final.Quiet ∧
      count .begin busySchedule = 3 ∧
      count .begin busySchedule = count .leave busySchedule + disturbedRounds busySchedule ∧
      Served busySchedule := by
  cases reached : after busySchedule with
  | none => exact absurd reached (by decide)
  | some final =>
      have outside : ∀ turn ∈ busySchedule, final.place turn.thread = .outside := by
        have all : (after busySchedule).all fun final =>
            busySchedule.all fun turn => final.place turn.thread = .outside := by
          decide
        simpa [reached] using all
      have quiet := quiet_of_run reached outside
      rcases (renders_coalesced reached).2 quiet (by decide) with ⟨renders, served, _⟩
      exact ⟨final, rfl, quiet, by decide, renders, served⟩

end Threads

end Montage.Coalescer
