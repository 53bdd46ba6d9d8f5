import Montage.Proofs.Media.Cache.Flights

/-!
# What a flight comes to

A flight ends with what its one probe has reported.  So a thread that waits for a flight can
go on once nobody carries the flight any more, and what it gets is what the probe has come
to, be it that the flight is not stored any more.
-/

namespace Montage.ProbeCache.Threads

variable {α : Type} {threads next start final : Threads α} {turn : Turn α}
  {turns : List (Turn α)} {thread flight : ℕ} {result : Result α (MediaInfo α)}

/-! ## Results -/

/-- A thread comes to the end of the probe of a flight. -/
def Reports (flight : ℕ) (result : Result α (MediaInfo α)) (threads : Threads α) (turn : Turn α) :
    Prop :=
  ∃ prober key, threads.place prober = .probing key flight ∧ turn = .act prober (.finish result)

/-- The probe of a flight has ended, and the flight itself may have. -/
def Landed (threads : Threads α) (flight : ℕ) (result : Result α (MediaInfo α)) : Prop :=
  threads.cache.flights[flight]? = some (some result) ∨
    ∃ thread, (threads.place thread).reports? = some (flight, result)

/-- A flight has one result. -/
theorem Manned.landed_unique (manned : threads.Manned) {first second : Result α (MediaInfo α)}
    (firstLanded : threads.Landed flight first) (secondLanded : threads.Landed flight second) :
    first = second := by
  have neverBoth : ∀ {thread result other}, threads.cache.flights[flight]? = some (some result) →
      (threads.place thread).reports? = some (flight, other) → False := by
    intro thread result other ended reports
    have underWay := (manned.sound.carried flight).mpr
      ⟨thread, Place.carries?_of_reports? reports⟩
    cases ended.symm.trans underWay
  rcases firstLanded with firstEnded | ⟨firstThread, firstReports⟩ <;>
    rcases secondLanded with secondEnded | ⟨secondThread, secondReports⟩
  · simpa [firstEnded] using secondEnded
  · exact (neverBoth firstEnded secondReports).elim
  · exact (neverBoth secondEnded firstReports).elim
  · have same := manned.sound.once firstThread secondThread flight
      (Place.carries?_of_reports? firstReports) (Place.carries?_of_reports? secondReports)
    subst same
    simpa [firstReports] using secondReports

variable [Scalar α]

/-! ## How flights land -/

theorem reports_step (stepped : Step threads turn next)
    (reports : (next.place thread).reports? = some (flight, result)) :
    (threads.place thread).reports? = some (flight, result) ∨
      Reports flight result threads turn := by
  rcases stepped.place_eq_or thread with stays | ⟨move, rfl⟩
  · exact .inl (stays ▸ reports)
  · cases stepped with
    | @finish _ _ key _ stands =>
        rw [advance_place_self] at reports
        cases reports
        exact .inr ⟨thread, key, stands, rfl⟩
    | drop stands =>
        rw [advance_place_self] at reports
        cases reports
        left
        rw [stands]
        rfl
    | _ =>
        rw [advance_place_self] at reports
        cases reports

theorem landed_of_reports (stepped : Step threads turn next)
    (reports : Reports flight result threads turn) : next.Landed flight result := by
  rcases reports with ⟨prober, key, stands, rfl⟩
  cases stepped with
  | finish standsToo =>
      cases stands.symm.trans standsToo
      right
      use prober
      rw [advance_place_self]
      rfl

/-- A result that a flight has come to stays. -/
theorem Manned.landed_step (manned : threads.Manned) (stepped : Step threads turn next)
    (landed : threads.Landed flight result) : next.Landed flight result := by
  rcases landed with ended | ⟨thread, reports⟩
  · exact .inl ((accounts_of_step stepped).ended manned.sound ended)
  · have underWay := (manned.sound.carried flight).mpr
      ⟨thread, Place.carries?_of_reports? reports⟩
    have begun := (List.getElem?_eq_some_iff.mp underWay).choose
    rcases stepped.place_eq_or thread with stays | ⟨move, rfl⟩
    · exact .inr ⟨thread, stays ▸ reports⟩
    · cases stepped with
      | drop stands =>
          rw [stands] at reports
          cases reports
          right
          use thread
          rw [advance_place_self]
          rfl
      | land stands =>
          rw [stands] at reports
          cases reports
          exact .inl (List.getElem?_set_self begun)
      | crash stands =>
          rw [stands] at reports
          cases reports
          exact .inl (List.getElem?_set_self begun)
      | look stands _ => rw [stands] at reports; cases reports
      | join stands _ => rw [stands] at reports; cases reports
      | own stands _ => rw [stands] at reports; cases reports
      | begin stands => rw [stands] at reports; cases reports
      | finish stands => rw [stands] at reports; cases reports
      | receive stands _ => rw [stands] at reports; cases reports
      | bring stands _ => rw [stands] at reports; cases reports
      | seed stands => rw [stands] at reports; cases reports

/-- A flight only ends with what its probe has come to. -/
theorem landed_of_ended (stepped : Step threads turn next)
    (begun : flight < threads.cache.flights.length)
    (ended : next.cache.flights[flight]? = some (some result)) :
    threads.Landed flight result := by
  have closed : ∀ {thread ending other}, (threads.place thread).reports? = some (ending, other) →
      (threads.cache.flights.set ending (some other))[flight]? = some (some result) →
      threads.Landed flight result := by
    intro thread ending other reports ended
    by_cases here : ending = flight
    · subst here
      rw [List.getElem?_set_self begun] at ended
      cases ended
      exact .inr ⟨thread, reports⟩
    · rw [List.getElem?_set_ne here] at ended
      exact .inl ended
  cases stepped with
  | own _ _ => exact .inl ((flights_launch_of_lt begun).symm.trans ended)
  | land stands => exact closed (by rw [stands]; rfl) ended
  | crash stands => exact closed (by rw [stands]; rfl) ended
  | seed _ => exact .inl ((flights_launch_of_lt begun).symm.trans ended)
  | _ => exact .inl ended

/-- Behind a schedule from idle threads, a probe that has ended has reported. -/
theorem occurs_of_reports {changedAt : String → Option α}
    (reports : (final.place thread).reports? = some (flight, result))
    (ran : after changedAt turns = some final) :
    Schedule.Occurs step (Reports flight result) (idle changedAt) turns := by
  have brought : ∀ {threads : Threads α} {turn next},
      (next.place thread).reports? = some (flight, result) → threads.step turn = some next →
      (threads.place thread).reports? = some (flight, result) ∨
        Reports flight result threads turn := by
    intro threads turn next reports stepped
    exact reports_step (step_eq_some_iff.mp stepped) reports
  have since := Schedule.occurs_of_run
    (fun threads => (threads.place thread).reports? = some (flight, result)) brought reports ran
  exact since.resolve_left nofun

/-- A flight that has begun lands with what its probe reports. -/
theorem occurs_of_landed (begun : flight < start.cache.flights.length)
    (landed : final.Landed flight result) (ran : Schedule.run step start turns = some final) :
    start.Landed flight result ∨ Schedule.Occurs step (Reports flight result) start turns := by
  have brought : ∀ {threads : Threads α} {turn next},
      (flight < next.cache.flights.length → next.Landed flight result) →
      threads.step turn = some next →
      (flight < threads.cache.flights.length → threads.Landed flight result) ∨
        Reports flight result threads turn := by
    intro threads turn next landed stepped
    have taken := step_eq_some_iff.mp stepped
    by_cases reported : Reports flight result threads turn
    · exact .inr reported
    · left
      intro begun
      rcases landed (begun.trans_le (accounts_of_step taken).length_le) with
        ended | ⟨thread, reports⟩
      · exact landed_of_ended taken begun ended
      · exact .inr ⟨thread, (reports_step taken reports).resolve_right reported⟩
  have since := Schedule.occurs_of_run
    (fun threads => flight < threads.cache.flights.length → threads.Landed flight result)
    brought (fun _ => landed) ran
  exact since.imp_left fun landed => landed begun

/-- What a probe reports is what its flight lands with. -/
theorem landed_of_occurs (manned : start.Manned)
    (occurs : Schedule.Occurs step (Reports flight result) start turns)
    (ran : Schedule.run step start turns = some final) : final.Landed flight result := by
  rcases occurs with ⟨earlier, turn, rest, middle, rfl, ranEarlier, reports⟩
  rcases Schedule.run_append_eq_some_iff.mp ran with ⟨_, ranAgain, ranLater⟩
  cases ranEarlier.symm.trans ranAgain
  rcases Schedule.run_cons_eq_some_iff.mp ranLater with ⟨next, stepped, ranRest⟩
  have taken := step_eq_some_iff.mp stepped
  have kept : ∀ {threads : Threads α} {turn next}, turn ∈ rest →
      threads.Manned ∧ threads.Landed flight result → threads.step turn = some next →
      next.Manned ∧ next.Landed flight result := by
    rintro threads turn next _ ⟨manned, landed⟩ stepped
    have taken := step_eq_some_iff.mp stepped
    exact ⟨manned.step taken, manned.landed_step taken landed⟩
  have mannedNext := (manned_of_run manned ranEarlier).step taken
  exact (Schedule.invariant_of_run (fun threads => threads.Manned ∧ threads.Landed flight result)
    kept ⟨mannedNext, landed_of_reports taken reports⟩ ranRest).2

/-! ## What a thread gets that waits -/

/-- A call finds a flight under its key that is under way. -/
def Joins (caller flight : ℕ) (threads : Threads α) (turn : Turn α) : Prop :=
  ∃ key, threads.place caller = .keyed key ∧ threads.cache.flight? key = some flight ∧
    threads.cache.UnderWay flight ∧ turn = .act caller .join

/-- It is the turn of a thread. -/
def Moves (thread : ℕ) (_ : Threads α) (turn : Turn α) : Prop :=
  ∃ move, turn = .act thread move

theorem waiting_of_joined (joined : Step threads turn next)
    (joins : Joins thread flight threads turn) : next.place thread = .waiting flight := by
  rcases joins with ⟨key, stands, found, _, rfl⟩
  cases joined with
  | join standsToo foundToo =>
      cases stands.symm.trans standsToo
      cases found.symm.trans foundToo
      exact advance_place_self

/-- A call that has found a flight waits for it until its next turn. -/
theorem waiting_of_since
    (joined : Schedule.Since step (Joins thread flight) (Moves thread) start turns)
    (ran : Schedule.run step start turns = some final) :
    final.place thread = .waiting flight := by
  rcases joined with ⟨earlier, turn, rest, asked, next, rfl, ranEarlier, joins, stepped, stays⟩
  rcases Schedule.run_append_eq_some_iff.mp ran with ⟨_, ranAgain, ranLater⟩
  cases ranEarlier.symm.trans ranAgain
  rcases Schedule.run_cons_eq_some_iff.mp ranLater with ⟨_, steppedAgain, ranRest⟩
  cases stepped.symm.trans steppedAgain
  have kept : ∀ {threads : Threads α} {turn next}, turn ∈ rest →
      threads.place thread = .waiting flight → ¬Moves thread threads turn →
      threads.step turn = some next → next.place thread = .waiting flight := by
    intro threads turn next _ waits unmoved stepped
    have same := (step_eq_some_iff.mp stepped).place_eq_or thread
    exact (same.resolve_right unmoved).trans waits
  exact Schedule.holds_of_run (fun threads => threads.place thread = .waiting flight) kept
    (waiting_of_joined (step_eq_some_iff.mp stepped) joins) stays ranRest

/-- A flight that has been found under way lands with what its probe has reported, be it before
or behind that. -/
theorem occurs_of_since {changedAt : String → Option α} {caller : ℕ}
    (joined : Schedule.Since step (Joins caller flight) (Moves caller) (idle changedAt) turns)
    (landed : final.Landed flight result) (ran : after changedAt turns = some final) :
    Schedule.Occurs step (Reports flight result) (idle changedAt) turns := by
  rcases joined with ⟨earlier, turn, rest, asked, _, rfl, ranEarlier, ⟨_, _, _, underWay, _⟩, _⟩
  rcases Schedule.run_append_eq_some_iff.mp ran with ⟨_, ranAgain, ranLater⟩
  cases ranEarlier.symm.trans ranAgain
  rw [Schedule.occurs_append_iff ranEarlier]
  rcases occurs_of_landed underWay.lt landed ranLater with (ended | ⟨prober, reports⟩) | later
  · cases underWay.symm.trans ended
  · exact .inl (occurs_of_reports reports ranEarlier)
  · exact .inr later

/-- A call that has found a flight under way waits for as long as a thread carries the flight,
and gets what the one probe of that flight has reported. -/
theorem answer_of_joined {changedAt : String → Option α} {caller : ℕ}
    (joined : Schedule.Since step (Joins caller flight) (Moves caller) (idle changedAt) turns)
    (ran : after changedAt turns = some final) :
    (∃ owner, final.carries owner = some flight) ∨
      ∃ result, final.answer? caller .receive = some result ∧
        ∀ other, Schedule.Occurs step (Reports flight other) (idle changedAt) turns ↔
          other = result := by
  have mannedIdle := manned_idle changedAt
  have mannedFinal := manned_of_run mannedIdle ran
  have waits := waiting_of_since joined ran
  rcases mannedFinal.carried_or_ended (mannedFinal.waits caller flight waits) with
    carried | ⟨result, ended⟩
  · exact .inl carried
  · right
    have landed : final.Landed flight result := .inl (result?_eq_some_iff.mp ended)
    use result
    constructor
    · simpa [answer?, waits] using ended
    · intro other
      constructor
      · intro occurs
        exact mannedFinal.landed_unique (landed_of_occurs mannedIdle occurs ran) landed
      · rintro rfl
        exact occurs_of_since joined landed ran

end Montage.ProbeCache.Threads
