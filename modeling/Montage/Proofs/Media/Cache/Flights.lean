import Montage.Proofs.Media.Cache.Turns

/-!
# Who carries a flight

A flight that is under way is carried by exactly one thread, which has stored it and is
to end it.  The entries and the threads that wait point to flights that have begun.
-/

namespace Montage.ProbeCache.Threads

variable {α : Type} {threads next start final : Threads α} {turn : Turn α}
  {turns : List (Turn α)} {thread flight : ℕ} {result : Result α (MediaInfo α)}
  {place : Place α} {cache : ProbeCache α}

/-! ## The account of flights -/

/-- What a turn can do to the flights and to the threads that carry them. -/
inductive Accounts (carries : ℕ → Option ℕ) (flights : List (Option (Result α (MediaInfo α)))) :
    (ℕ → Option ℕ) → List (Option (Result α (MediaInfo α))) → Prop
  | keep : Accounts carries flights carries flights
  | add (result : Result α (MediaInfo α)) :
      Accounts carries flights carries (flights ++ [some result])
  | begin {thread : ℕ} (free : carries thread = none) :
      Accounts carries flights (Schedule.move carries thread (some flights.length))
        (flights ++ [none])
  | close {thread flight : ℕ} (holds : carries thread = some flight)
      (result : Result α (MediaInfo α)) :
      Accounts carries flights (Schedule.move carries thread none)
        (flights.set flight (some result))

/-- The flights under way are those that threads carry, each by one thread. -/
structure Carried (carries : ℕ → Option ℕ) (flights : List (Option (Result α (MediaInfo α)))) :
    Prop where
  carried : ∀ flight, flights[flight]? = some none ↔ ∃ thread, carries thread = some flight
  once : ∀ first second flight, carries first = some flight → carries second = some flight →
    first = second

section Accounts

variable {carries carriesNext : ℕ → Option ℕ}
  {flights flightsNext : List (Option (Result α (MediaInfo α)))}

/-- Flights are never forgotten. -/
theorem Accounts.length_le (accounts : Accounts carries flights carriesNext flightsNext) :
    flights.length ≤ flightsNext.length := by
  cases accounts <;> simp

/-- What has ended stays as it is. -/
theorem Accounts.ended (accounts : Accounts carries flights carriesNext flightsNext)
    (sound : Carried carries flights) (ended : flights[flight]? = some (some result)) :
    flightsNext[flight]? = some (some result) := by
  have begun := (List.getElem?_eq_some_iff.mp ended).choose
  cases accounts with
  | keep => exact ended
  | add _ => rwa [List.getElem?_append_left begun]
  | begin _ => rwa [List.getElem?_append_left begun]
  | @close thread other holds _ =>
      have underWay := (sound.carried other).mpr ⟨thread, holds⟩
      have different : other ≠ flight := by
        rintro rfl
        cases ended.symm.trans underWay
      rwa [List.getElem?_set_ne different]

private theorem underWay_append {ending : Option (Result α (MediaInfo α))} :
    (flights ++ [ending])[flight]? = some none ↔
      flights[flight]? = some none ∨ flight = flights.length ∧ ending = none := by
  rcases lt_trichotomy flight flights.length with before | rfl | behind
  · simp [List.getElem?_append_left before, before.ne]
  · simp
  · have outside : (flights ++ [ending])[flight]? = none := by simpa using behind
    simp [outside, behind.le, behind.ne']

private theorem underWay_set {other : ℕ} :
    (flights.set other (some result))[flight]? = some none ↔
      flights[flight]? = some none ∧ flight ≠ other := by
  by_cases here : flight = other
  · subst here
    simp [List.getElem?_set]
  · simp [List.getElem?_set_ne (Ne.symm here), here]

/-- A flight that begins is carried by the thread that begins it. -/
theorem Carried.begin (sound : Carried carries flights) {thread : ℕ}
    (free : carries thread = none) :
    Carried (Schedule.move carries thread (some flights.length)) (flights ++ [none]) := by
  have unused : ∀ other, carries other ≠ some flights.length := by
    intro other holds
    simpa using (sound.carried flights.length).mpr ⟨other, holds⟩
  constructor
  · intro flight
    rw [underWay_append, sound.carried]
    constructor
    · rintro (⟨other, holds⟩ | ⟨rfl, _⟩)
      · use other
        rw [Schedule.move_eq_iff]
        right
        constructor
        · rintro rfl
          cases free.symm.trans holds
        · exact holds
      · exact ⟨thread, Schedule.move_self _ _ _⟩
    · rintro ⟨other, stands⟩
      rcases Schedule.move_eq_iff.mp stands with ⟨rfl, begun⟩ | ⟨_, holds⟩
      · exact .inr ⟨(Option.some.inj begun).symm, rfl⟩
      · exact .inl ⟨other, holds⟩
  · intro first second flight firstStands secondStands
    rcases Schedule.move_eq_iff.mp firstStands with ⟨rfl, begun⟩ | ⟨_, firstHolds⟩ <;>
      rcases Schedule.move_eq_iff.mp secondStands with ⟨rfl, begunToo⟩ | ⟨_, secondHolds⟩
    · rfl
    · exact absurd (secondHolds.trans begun.symm) (unused second)
    · exact absurd (firstHolds.trans begunToo.symm) (unused first)
    · exact sound.once first second flight firstHolds secondHolds

/-- A flight that ends is carried no more. -/
theorem Carried.close (sound : Carried carries flights) {thread : ℕ}
    (holds : carries thread = some flight) :
    Carried (Schedule.move carries thread none) (flights.set flight (some result)) := by
  have others : ∀ other found, Schedule.move carries thread none other = some found ↔
      other ≠ thread ∧ carries other = some found := by
    intro other found
    simp [Schedule.move_eq_iff]
  constructor
  · intro found
    rw [underWay_set, sound.carried]
    constructor
    · rintro ⟨⟨other, otherHolds⟩, different⟩
      use other
      rw [others]
      constructor
      · rintro rfl
        exact different (Option.some.inj (otherHolds.symm.trans holds))
      · exact otherHolds
    · rintro ⟨other, stillHolds⟩
      rcases (others other found).mp stillHolds with ⟨different, otherHolds⟩
      constructor
      · exact ⟨other, otherHolds⟩
      · rintro rfl
        exact different (sound.once other thread found otherHolds holds)
  · intro first second found firstHolds secondHolds
    exact sound.once first second found ((others first found).mp firstHolds).2
      ((others second found).mp secondHolds).2

theorem Carried.step (sound : Carried carries flights)
    (accounts : Accounts carries flights carriesNext flightsNext) :
    Carried carriesNext flightsNext := by
  cases accounts with
  | keep => exact sound
  | add result =>
      constructor
      · intro flight
        simp [underWay_append, sound.carried]
      · exact sound.once
  | begin free => exact sound.begin free
  | close holds result => exact sound.close holds

end Accounts

/-- The flight that each thread is to end. -/
def carries (threads : Threads α) (thread : ℕ) : Option ℕ :=
  (threads.place thread).carries?

theorem carries_advance :
    (threads.advance thread place cache).carries =
      Schedule.move threads.carries thread place.carries? := by
  funext other
  by_cases moves : other = thread <;> simp [carries, advance, Schedule.move, moves]

/-- A thread that carries what it has carried before changes nothing. -/
private theorem carries_advance_of_eq (same : place.carries? = (threads.place thread).carries?) :
    (threads.advance thread place cache).carries = threads.carries := by
  rw [carries_advance, same]
  funext other
  by_cases moves : other = thread <;> simp [Schedule.move, moves, carries]

/-- Whatever points to a flight points to one that has begun, each path has one entry at
most, and the flights under way are carried. -/
structure Manned (threads : Threads α) : Prop where
  sound : Carried threads.carries threads.cache.flights
  waits : ∀ thread flight, threads.place thread = .waiting flight →
    flight < threads.cache.flights.length
  stored : ∀ entry ∈ threads.cache.entries, entry.2 < threads.cache.flights.length
  one : threads.cache.OnePerPath

theorem manned_idle (changedAt : String → Option α) : (idle changedAt).Manned := by
  constructor
  · constructor
    · intro flight
      constructor
      · intro underWay
        cases underWay
      · rintro ⟨thread, holds⟩
        cases holds
    · intro first second flight holds
      cases holds
  · intro thread flight waits
    cases waits
  · intro entry member
    cases member
  · exact onePerPath_empty

/-- A flight that has begun is carried or has ended. -/
theorem Manned.carried_or_ended (manned : threads.Manned)
    (begun : flight < threads.cache.flights.length) :
    (∃ thread, threads.carries thread = some flight) ∨
      ∃ result, threads.cache.result? flight = some result := by
  cases ending : threads.cache.flights[flight] with
  | none =>
      left
      rw [← manned.sound.carried, List.getElem?_eq_getElem begun, ending]
  | some result =>
      right
      use result
      rw [result?_eq_some_iff, List.getElem?_eq_getElem begun, ending]

variable [Scalar α]

/-- A thread that carries a flight can go on. -/
theorem exists_act_of_carries (carried : threads.carries thread = some flight) :
    ∃ move, (threads.act thread move).isSome = true := by
  rw [carries] at carried
  cases stands : threads.place thread with
  | owner key flight => exact ⟨.begin, by simp [act, stands]⟩
  | probing key flight =>
      exact ⟨.finish (.error (.probe (.notFound key.path))), by simp [act, stands]⟩
  | probed key flight result =>
      cases result with
      | ok info => exact ⟨.publish, by simp [act, stands]⟩
      | error fault => exact ⟨.drop, by simp [act, stands]⟩
  | dropped flight fault => exact ⟨.publish, by simp [act, stands]⟩
  | outside => rw [stands] at carried; cases carried
  | keyed key => rw [stands] at carried; cases carried
  | waiting flight => rw [stands] at carried; cases carried
  | bringing key info => rw [stands] at carried; cases carried

theorem accounts_of_step (stepped : Step threads turn next) :
    Accounts threads.carries threads.cache.flights next.carries next.cache.flights := by
  have keeps : ∀ {thread : ℕ} {stood place : Place α} {cache : ProbeCache α},
      threads.place thread = stood → place.carries? = stood.carries? →
      Accounts threads.carries threads.cache.flights threads.carries cache.flights →
      Accounts threads.carries threads.cache.flights
        (threads.advance thread place cache).carries cache.flights := by
    rintro thread stood place cache rfl same accounts
    rwa [carries_advance_of_eq same]
  cases stepped with
  | look stands _ => exact keeps stands rfl .keep
  | join stands _ => exact keeps stands rfl .keep
  | own stands _ =>
      rw [carries_advance]
      apply Accounts.begin
      rw [carries, stands]
      rfl
  | begin stands => exact keeps stands rfl .keep
  | finish stands => exact keeps stands rfl .keep
  | drop stands => exact keeps stands rfl .keep
  | land stands =>
      rw [carries_advance]
      apply Accounts.close
      rw [carries, stands]
      rfl
  | crash stands =>
      rw [carries_advance]
      apply Accounts.close
      rw [carries, stands]
      rfl
  | receive stands _ => exact keeps stands rfl .keep
  | bring stands _ => exact keeps stands rfl .keep
  | @seed _ _ info stands => exact keeps stands rfl (.add (.ok info))
  | change => exact .keep

/-! ## Behind a turn -/

/-- Entries are only stored for flights that have begun, in place of others for the path. -/
theorem entries_step
    (stored : ∀ entry ∈ threads.cache.entries, entry.2 < threads.cache.flights.length)
    (one : threads.cache.OnePerPath) (stepped : Step threads turn next) :
    (∀ entry ∈ next.cache.entries, entry.2 < next.cache.flights.length) ∧
      next.cache.OnePerPath := by
  have launched : ∀ (key : ProbeKey α) ending,
      ∀ entry ∈ (threads.cache.launch key ending).entries,
        entry.2 < (threads.cache.launch key ending).flights.length := by
    intro key ending entry member
    rw [flights_launch, List.length_append, List.length_singleton]
    rcases mem_launch.mp member with ⟨earlier, _⟩ | rfl
    · exact Nat.lt_succ_of_lt (stored entry earlier)
    · exact Nat.lt_succ_self _
  have finished : ∀ flight result, ∀ entry ∈ (threads.cache.finish flight result).entries,
      entry.2 < (threads.cache.finish flight result).flights.length := by
    intro flight result entry member
    simpa [ProbeCache.finish] using stored entry member
  cases stepped with
  | look _ _ => exact ⟨stored, one⟩
  | join _ _ => exact ⟨stored, one⟩
  | own _ _ => exact ⟨launched _ _, one.launch⟩
  | begin _ => exact ⟨stored, one⟩
  | finish _ => exact ⟨stored, one⟩
  | drop _ => exact ⟨fun entry member => stored entry (mem_discard.mp member).1, one.discard⟩
  | land _ => exact ⟨finished _ _, one.finish⟩
  | crash _ => exact ⟨finished _ _, one.finish⟩
  | receive _ _ => exact ⟨stored, one⟩
  | bring _ _ => exact ⟨stored, one⟩
  | seed _ => exact ⟨launched _ _, one.launch⟩
  | change => exact ⟨stored, one⟩

/-- Threads only come to wait for a flight that is stored. -/
theorem waiting_step (stepped : Step threads turn next)
    (waits : next.place thread = .waiting flight) :
    threads.place thread = .waiting flight ∨
      ∃ key, threads.cache.flight? key = some flight := by
  rcases stepped.place_eq_or thread with stays | ⟨move, rfl⟩
  · exact .inl (stays.symm.trans waits)
  · cases stepped with
    | @join _ _ key _ stored =>
        rw [advance_place_self] at waits
        cases waits
        exact .inr ⟨key, stored⟩
    | _ =>
        rw [advance_place_self] at waits
        cases waits

theorem Manned.step (manned : threads.Manned) (stepped : Step threads turn next) :
    next.Manned := by
  have accounts := accounts_of_step stepped
  rcases entries_step manned.stored manned.one stepped with ⟨stored, one⟩
  constructor
  · exact manned.sound.step accounts
  · intro thread flight waits
    apply Nat.lt_of_lt_of_le _ accounts.length_le
    rcases waiting_step stepped waits with waited | ⟨key, found⟩
    · exact manned.waits thread flight waited
    · rcases exists_mem_of_flight? found with ⟨under, member, _⟩
      exact manned.stored _ member
  · exact stored
  · exact one

theorem manned_of_run (manned : start.Manned) (ran : Schedule.run step start turns = some final) :
    final.Manned :=
  Schedule.invariant_of_run Manned
    (fun _ held stepped => held.step (step_eq_some_iff.mp stepped)) manned ran

end Montage.ProbeCache.Threads
