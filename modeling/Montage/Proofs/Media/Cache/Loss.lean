import Montage.Proofs.Media.Cache.SingleFlight

/-!
# How entries are lost

An entry is meant to be lost in two ways: its own probe fails, or the path is stored again for
the same time or a later one.  But whoever drops a failed probe drops what is stored under its
key, and whoever stores a path takes the place of every entry for it.  So an entry is also lost
to the failure of a probe that it does not belong to, and to a key that is older than its own.

If times only grow, the second of these needs a key that is stored when it is not up to date any
more, and the first needs that too, or something that is put in beside a flight under way.
Without such turns an entry is only lost as it is meant to be.  The invariant that shows this
looks ahead: no time that is still to come is earlier than an entry, and a flight that has lost
its entry has a key that will never be stored again.
-/

namespace Montage.ProbeCache

/-- The time that a turn gives to a path, if it changes the path and does not delete it. -/
def Turn.timeOf? (path : String) : Turn ℚ → Option ℚ
  | .act _ _ => none
  | .change other time => if other = path then time else none

namespace Threads

variable {threads next start final : Threads ℚ} {turn : Turn ℚ}
  {turns rest before during : List (Turn ℚ)} {key : ProbeKey ℚ} {entry : ProbeKey ℚ × ℕ}
  {path : String} {thread flight : ℕ}

/-! ## Turns that store or drop -/

/-- A turn stores a flight under a key. -/
inductive Stores (key : ProbeKey ℚ) (threads : Threads ℚ) : Turn ℚ → Prop
  | own {thread : ℕ} (stands : threads.place thread = .keyed key) :
      Stores key threads (.act thread .own)
  | seed {thread : ℕ} {info : MediaInfo ℚ} (stands : threads.place thread = .bringing key info) :
      Stores key threads (.act thread .seed)

/-- A thread drops what is stored under the key of its flight, whose probe has failed. -/
def DropsFor (key : ProbeKey ℚ) (flight : ℕ) (threads : Threads ℚ) (turn : Turn ℚ) : Prop :=
  ∃ dropper fault, threads.place dropper = .probed key flight (.error fault) ∧
    turn = .act dropper .drop

/-- Storing begins a new flight. -/
theorem Stores.exists_cache_eq (stores : Stores key threads turn) (stepped : Step threads turn next) :
    ∃ ending, next.cache = threads.cache.launch key ending := by
  cases stores with
  | own stands =>
      cases stepped with
      | own standsToo _ =>
          cases stands.symm.trans standsToo
          exact ⟨none, rfl⟩
  | seed stands =>
      cases stepped with
      | seed standsToo =>
          cases stands.symm.trans standsToo
          exact ⟨_, rfl⟩

theorem DropsFor.cache_eq {flight : ℕ} (drops : DropsFor key flight threads turn)
    (stepped : Step threads turn next) : next.cache = threads.cache.discard key := by
  obtain ⟨dropper, fault, stands, rfl⟩ := drops
  cases stepped with
  | drop standsToo =>
      cases stands.symm.trans standsToo
      rfl

/-- All other turns keep the entries. -/
theorem entries_cases (stepped : Step threads turn next) :
    next.cache.entries = threads.cache.entries ∨
      (∃ key ending, Stores key threads turn ∧ next.cache = threads.cache.launch key ending) ∨
      ∃ key flight, DropsFor key flight threads turn ∧
        next.cache = threads.cache.discard key := by
  cases stepped with
  | own stands _ => exact .inr (.inl ⟨_, none, .own stands, rfl⟩)
  | seed stands => exact .inr (.inl ⟨_, _, .seed stands, rfl⟩)
  | drop stands => exact .inr (.inr ⟨_, _, ⟨_, _, stands, rfl⟩, rfl⟩)
  | _ => exact .inl rfl

/-! ## Losses -/

/-- The probe of an entry has failed, and its owner drops it. -/
def FailsFor (entry : ProbeKey ℚ × ℕ) : Threads ℚ → Turn ℚ → Prop :=
  DropsFor entry.1 entry.2

/-- A thread drops an entry for the failure of another probe under the same key. -/
def FailsBeside (entry : ProbeKey ℚ × ℕ) (threads : Threads ℚ) (turn : Turn ℚ) : Prop :=
  ∃ flight, flight ≠ entry.2 ∧ DropsFor entry.1 flight threads turn

/-- The path of an entry is stored for the same time or a later one. -/
def Supersedes (entry : ProbeKey ℚ × ℕ) (threads : Threads ℚ) (turn : Turn ℚ) : Prop :=
  ∃ key, Stores key threads turn ∧ key.path = entry.1.path ∧ entry.1.changedAt ≤ key.changedAt

/-- The path of an entry is stored for an earlier time. -/
def Outdates (entry : ProbeKey ℚ × ℕ) (threads : Threads ℚ) (turn : Turn ℚ) : Prop :=
  ∃ key, Stores key threads turn ∧ key.path = entry.1.path ∧ key.changedAt < entry.1.changedAt

/-- A turn loses an entry for a reason of its own. -/
def Retires (entry : ProbeKey ℚ × ℕ) (threads : Threads ℚ) (turn : Turn ℚ) : Prop :=
  FailsFor entry threads turn ∨ Supersedes entry threads turn

/-- A turn loses an entry for one reason or another. -/
def Loses (entry : ProbeKey ℚ × ℕ) (threads : Threads ℚ) (turn : Turn ℚ) : Prop :=
  Retires entry threads turn ∨ FailsBeside entry threads turn ∨ Outdates entry threads turn

theorem loses_of_lost (stepped : Step threads turn next) (member : entry ∈ threads.cache.entries)
    (lost : entry ∉ next.cache.entries) : Loses entry threads turn := by
  rcases entries_cases stepped with
    kept | ⟨key, ending, stores, cache_eq⟩ | ⟨key, flight, drops, cache_eq⟩
  · rw [kept] at lost
    exact absurd member lost
  · rw [cache_eq, mem_launch, not_or, not_and, not_not] at lost
    have here : key.path = entry.1.path := (lost.1 member).symm
    rcases le_or_gt entry.1.changedAt key.changedAt with later | earlier
    · exact .inl (.inr ⟨key, stores, here, later⟩)
    · exact .inr (.inr ⟨key, stores, here, earlier⟩)
  · rw [cache_eq, mem_discard_iff, not_and, not_not] at lost
    rw [← lost member] at drops
    by_cases own : flight = entry.2
    · rw [own] at drops
      exact .inl (.inl drops)
    · exact .inr (.inl ⟨flight, own, drops⟩)

/-- An entry of a flight that has begun is not stored again. -/
theorem gone_step (stepped : Step threads turn next)
    (begun : entry.2 < threads.cache.flights.length) (gone : entry ∉ threads.cache.entries) :
    entry ∉ next.cache.entries := by
  rcases entries_cases stepped with kept | ⟨key, ending, _, cache_eq⟩ | ⟨key, flight, _, cache_eq⟩
  · rwa [kept]
  · rw [cache_eq, mem_launch]
    rintro (⟨member, _⟩ | rfl)
    · exact gone member
    · exact lt_irrefl _ begun
  · rw [cache_eq, mem_discard_iff]
    exact fun kept => gone kept.1

theorem lost_of_loses (stepped : Step threads turn next)
    (begun : entry.2 < threads.cache.flights.length) (loses : Loses entry threads turn) :
    entry ∉ next.cache.entries := by
  have replaced {key : ProbeKey ℚ} (stores : Stores key threads turn)
      (here : key.path = entry.1.path) : entry ∉ next.cache.entries := by
    obtain ⟨ending, cache_eq⟩ := stores.exists_cache_eq stepped
    rw [cache_eq, mem_launch]
    rintro (⟨_, elsewhere⟩ | rfl)
    · exact elsewhere here.symm
    · exact lt_irrefl _ begun
  have dropped {flight : ℕ} (drops : DropsFor entry.1 flight threads turn) :
      entry ∉ next.cache.entries := by
    rw [drops.cache_eq stepped, mem_discard_iff]
    exact fun kept => kept.2 rfl
  rcases loses with (drops | ⟨key, stores, here, _⟩) | ⟨flight, _, drops⟩ | ⟨key, stores, here, _⟩
  · exact dropped drops
  · exact replaced stores here
  · exact dropped drops
  · exact replaced stores here

/-- What has been lost stays lost. -/
theorem gone_of_run (begun : entry.2 < start.cache.flights.length)
    (gone : entry ∉ start.cache.entries) (ran : Schedule.run step start turns = some final) :
    entry ∉ final.cache.entries := by
  have kept : ∀ {threads : Threads ℚ} {turn next}, turn ∈ turns →
      entry.2 < threads.cache.flights.length ∧ entry ∉ threads.cache.entries →
      threads.step turn = some next →
      entry.2 < next.cache.flights.length ∧ entry ∉ next.cache.entries := by
    rintro threads turn next _ ⟨begun, gone⟩ stepped
    have taken := step_eq_some_iff.mp stepped
    exact ⟨begun.trans_le (accounts_of_step taken).length_le, gone_step taken begun gone⟩
  exact (Schedule.invariant_of_run _ kept ⟨begun, gone⟩ ran).2

theorem lost_of_occurs (begun : entry.2 < start.cache.flights.length)
    (occurs : Schedule.Occurs step (Loses entry) start turns)
    (ran : Schedule.run step start turns = some final) : entry ∉ final.cache.entries := by
  induction turns generalizing start with
  | nil => exact absurd occurs Schedule.not_occurs_nil
  | cons turn turns ih =>
      obtain ⟨next, stepped, ranRest⟩ := Schedule.run_cons_eq_some_iff.mp ran
      have taken := step_eq_some_iff.mp stepped
      have begunNext := begun.trans_le (accounts_of_step taken).length_le
      rcases (Schedule.occurs_cons_iff stepped).mp occurs with here | later
      · exact gone_of_run begunNext (lost_of_loses taken begun here) ranRest
      · exact ih begunNext later ranRest

theorem lost_iff_occurs (begun : entry.2 < start.cache.flights.length)
    (member : entry ∈ start.cache.entries) (ran : Schedule.run step start turns = some final) :
    entry ∉ final.cache.entries ↔ Schedule.Occurs step (Loses entry) start turns := by
  constructor
  · intro lost
    by_contra never
    have kept : ∀ {threads : Threads ℚ} {turn next}, turn ∈ turns →
        entry ∈ threads.cache.entries → ¬Loses entry threads turn →
        threads.step turn = some next → entry ∈ next.cache.entries := by
      intro threads turn next _ member unharmed stepped
      by_contra lost
      exact unharmed (loses_of_lost (step_eq_some_iff.mp stepped) member lost)
    exact lost (Schedule.holds_of_run (fun threads => entry ∈ threads.cache.entries) kept member
      never ran)
  · exact fun occurs => lost_of_occurs begun occurs ran

/-! ## Times to come -/

/-- The time of a path, and those that it will have in the turns of a schedule. -/
def times (threads : Threads ℚ) (path : String) (turns : List (Turn ℚ)) : List ℚ :=
  (threads.changedAt path).toList ++ turns.filterMap (Turn.timeOf? path)

/-- Nothing is to come that has not been to come before a turn. -/
theorem times_suffix (stepped : Step threads turn next) (path : String) (rest : List (Turn ℚ)) :
    next.times path rest <:+ threads.times path (turn :: rest) := by
  cases stepped with
  | @change other time =>
      by_cases here : other = path
      · subst here
        have split : threads.times other (.change other time :: rest) =
            (threads.changedAt other).toList ++ (threads.change other time).times other rest := by
          cases time <;> simp [times, Turn.timeOf?, Threads.change]
        exact split ▸ List.suffix_append _ _
      · have elsewhere : path ≠ other := Ne.symm here
        simp [times, Turn.timeOf?, Threads.change, here, elsewhere]
  | _ => exact List.suffix_refl _

theorem changedAt_of_key? (current : threads.key? key.path = some key) :
    threads.changedAt key.path = some key.changedAt := by
  obtain ⟨time, dated, same⟩ := Option.map_eq_some_iff.mp current
  rw [dated, ← same]

theorem mem_times_of_key? (current : threads.key? key.path = some key) (turns : List (Turn ℚ)) :
    key.changedAt ∈ threads.times key.path turns := by
  simp [times, changedAt_of_key? current]

/-- Something is stored under a key that is not up to date any more. -/
def StoresLate (threads : Threads ℚ) (turn : Turn ℚ) : Prop :=
  ∃ key, Stores key threads turn ∧ threads.key? key.path ≠ some key

/-- Something is put in under the key of a flight that a thread has not ended. -/
def SeedsBeside (threads : Threads ℚ) (turn : Turn ℚ) : Prop :=
  ∃ seeder key info prober flight, threads.place seeder = .bringing key info ∧
    turn = .act seeder .seed ∧ (threads.place prober).flies? = some (key, flight)

/-- The times of every path grow in a schedule, no key is stored that is not up to date, and
nothing is put in beside a flight under the same key. -/
structure Undisturbed (start : Threads ℚ) (turns : List (Turn ℚ)) : Prop where
  grows : ∀ path, (start.times path turns).Pairwise (· ≤ ·)
  timely : ¬Schedule.Occurs step StoresLate start turns
  apart : ¬Schedule.Occurs step SeedsBeside start turns

theorem Undisturbed.first (undisturbed : threads.Undisturbed (turn :: turns))
    (stepped : threads.step turn = some next) :
    ¬StoresLate threads turn ∧ ¬SeedsBeside threads turn ∧ next.Undisturbed turns := by
  obtain ⟨grows, timely, apart⟩ := undisturbed
  rw [Schedule.occurs_cons_iff stepped, not_or] at timely apart
  refine ⟨timely.1, apart.1, fun path => ?_, timely.2, apart.2⟩
  exact (grows path).sublist (times_suffix (step_eq_some_iff.mp stepped) path turns).sublist

/-- A key that is up to date is not later than any time to come. -/
theorem Undisturbed.le_of_key? (undisturbed : threads.Undisturbed turns)
    (current : threads.key? key.path = some key) :
    ∀ time ∈ threads.times key.path turns, key.changedAt ≤ time := by
  have grows := undisturbed.grows key.path
  rw [times, changedAt_of_key? current, Option.toList_some, List.singleton_append] at grows ⊢
  exact List.forall_mem_cons.mpr ⟨le_rfl, fun _ => List.rel_of_pairwise_cons grows⟩

/-! ## Flights that are stored or outdated -/

/-- A key is older than all times to come, and nothing is stored under it. -/
structure Obsolete (threads : Threads ℚ) (turns : List (Turn ℚ)) (key : ProbeKey ℚ) : Prop where
  older : ∀ time ∈ threads.times key.path turns, key.changedAt < time
  absent : ∀ flight, (key, flight) ∉ threads.cache.entries

/-- No entry is later than the times to come, and a flight that a thread has not ended is
stored, or its key is obsolete. -/
structure Orderly (threads : Threads ℚ) (turns : List (Turn ℚ)) : Prop where
  dated : ∀ entry ∈ threads.cache.entries, ∀ time ∈ threads.times entry.1.path turns,
    entry.1.changedAt ≤ time
  flying : ∀ thread key flight, (threads.place thread).flies? = some (key, flight) →
    (key, flight) ∈ threads.cache.entries ∨ threads.Obsolete turns key

theorem orderly_idle (changedAt : String → Option ℚ) (turns : List (Turn ℚ)) :
    (idle changedAt).Orderly turns :=
  ⟨by simp [idle, empty], fun _ _ _ => nofun⟩

theorem current_of_stores (timely : ¬StoresLate threads turn) (stores : Stores key threads turn) :
    threads.key? key.path = some key := by
  by_contra late
  exact timely ⟨key, stores, late⟩

/-- What is stored in time is not later than the times to come. -/
theorem Orderly.dated_step (orderly : threads.Orderly (turn :: rest))
    (undisturbed : threads.Undisturbed (turn :: rest)) (stepped : Step threads turn next)
    (timely : ¬StoresLate threads turn) :
    ∀ entry ∈ next.cache.entries, ∀ time ∈ next.times entry.1.path rest,
      entry.1.changedAt ≤ time := by
  intro entry member time toCome
  have toCome := (times_suffix stepped entry.1.path rest).mem toCome
  rcases entries_cases stepped with
    kept | ⟨key, ending, stores, cache_eq⟩ | ⟨key, flight, drops, cache_eq⟩
  · rw [kept] at member
    exact orderly.dated entry member time toCome
  · rw [cache_eq, mem_launch] at member
    rcases member with ⟨member, _⟩ | rfl
    · exact orderly.dated entry member time toCome
    · exact undisturbed.le_of_key? (current_of_stores timely stores) time toCome
  · rw [cache_eq, mem_discard_iff] at member
    exact orderly.dated entry member.1 time toCome

/-- An obsolete key stays so, because it is not stored in time. -/
theorem Obsolete.step (obsolete : threads.Obsolete (turn :: rest) key)
    (stepped : Step threads turn next) (timely : ¬StoresLate threads turn) :
    next.Obsolete rest key := by
  refine ⟨fun time toCome =>
    obsolete.older time ((times_suffix stepped key.path rest).mem toCome), fun flight member => ?_⟩
  rcases entries_cases stepped with
    kept | ⟨newer, ending, stores, cache_eq⟩ | ⟨dropped, _, _, cache_eq⟩
  · rw [kept] at member
    exact obsolete.absent flight member
  · rw [cache_eq, mem_launch] at member
    rcases member with ⟨member, _⟩ | same
    · exact obsolete.absent flight member
    · cases same
      have current := current_of_stores timely stores
      exact lt_irrefl _ (obsolete.older _ (mem_times_of_key? current _))
  · rw [cache_eq, mem_discard_iff] at member
    exact obsolete.absent flight member.1

/-- Nobody stores under a key under which a thread has stored its flight. -/
theorem ne_of_stores {newer : ProbeKey ℚ} (stepped : Step threads turn next)
    (apart : ¬SeedsBeside threads turn) (flies : (threads.place thread).flies? = some (key, flight))
    (member : (key, flight) ∈ threads.cache.entries) (stores : Stores newer threads turn) :
    newer ≠ key := by
  rintro rfl
  cases stores with
  | own stands =>
      cases stepped with
      | own standsToo free =>
          cases stands.symm.trans standsToo
          exact flight?_eq_none_iff.mp free flight member
  | seed stands => exact apart ⟨_, _, _, thread, flight, stands, rfl, flies⟩

/-- Whoever drops what is stored under a key has stored it, or there is nothing. -/
theorem Orderly.eq_of_dropsFor {dropped : ℕ} (orderly : threads.Orderly turns)
    (manned : threads.Manned) (drops : DropsFor key dropped threads turn)
    (member : (key, flight) ∈ threads.cache.entries) : flight = dropped := by
  obtain ⟨dropper, fault, stands, _⟩ := drops
  rcases orderly.flying dropper key dropped (by rw [stands]; rfl) with stored | obsolete
  · cases manned.one.eq member stored rfl
    rfl
  · exact absurd member (obsolete.absent flight)

/-- The key of a flight whose place is taken becomes obsolete: the key that is stored now is
later, and so is everything that is to come. -/
theorem Orderly.obsolete_of_stores {newer : ProbeKey ℚ} {ending : Option (Result ℚ (MediaInfo ℚ))}
    (orderly : threads.Orderly (turn :: rest)) (undisturbed : threads.Undisturbed (turn :: rest))
    (stepped : Step threads turn next) (timely : ¬StoresLate threads turn)
    (apart : ¬SeedsBeside threads turn) (flew : (threads.place thread).flies? = some (key, flight))
    (member : (key, flight) ∈ threads.cache.entries) (stores : Stores newer threads turn)
    (here : key.path = newer.path) (cache_eq : next.cache = threads.cache.launch newer ending) :
    next.Obsolete rest key := by
  have current := current_of_stores timely stores
  have le : key.changedAt ≤ newer.changedAt :=
    orderly.dated _ member _ (here ▸ mem_times_of_key? current _)
  have lt : key.changedAt < newer.changedAt := by
    refine le.lt_of_ne fun same => ne_of_stores stepped apart flew member stores ?_
    exact congrArg₂ ProbeKey.mk here.symm same.symm
  refine ⟨fun time toCome => lt.trans_le ?_, fun other stored => ?_⟩
  · refine undisturbed.le_of_key? current time ?_
    exact here ▸ (times_suffix stepped key.path rest).mem toCome
  · rw [cache_eq, mem_launch] at stored
    rcases stored with ⟨_, elsewhere⟩ | same
    · exact elsewhere here
    · exact lt.ne (congrArg (fun stored => stored.1.changedAt) same)

/-- A flight that is stored stays so until its thread drops it, or its key becomes obsolete. -/
theorem Orderly.flying_step (orderly : threads.Orderly (turn :: rest)) (manned : threads.Manned)
    (undisturbed : threads.Undisturbed (turn :: rest)) (stepped : Step threads turn next)
    (timely : ¬StoresLate threads turn) (apart : ¬SeedsBeside threads turn)
    (flew : (threads.place thread).flies? = some (key, flight))
    (flies : (next.place thread).flies? = some (key, flight)) :
    (key, flight) ∈ next.cache.entries ∨ next.Obsolete rest key := by
  rcases orderly.flying thread key flight flew with member | obsolete
  · rcases entries_cases stepped with
      kept | ⟨newer, ending, stores, cache_eq⟩ | ⟨dropped, failed, drops, cache_eq⟩
    · rw [kept]
      exact .inl member
    · by_cases here : key.path = newer.path
      · exact .inr (orderly.obsolete_of_stores undisturbed stepped timely apart flew member stores
          here cache_eq)
      · rw [cache_eq, mem_launch]
        exact .inl (.inl ⟨member, here⟩)
    · left
      rw [cache_eq, mem_discard_iff]
      refine ⟨member, ?_⟩
      rintro rfl
      cases orderly.eq_of_dropsFor manned drops member
      obtain ⟨dropper, fault, stands, rfl⟩ := drops
      -- the thread that drops the flight is the one that carries it, and flies no more
      have same := manned.sound.once thread dropper flight (Place.carries?_of_flies? flew)
        (by rw [carries, stands]; rfl)
      subst same
      cases stepped with
      | drop _ =>
          rw [advance_place_self] at flies
          cases flies
  · exact .inr (obsolete.step stepped timely)

theorem Orderly.step (orderly : threads.Orderly (turn :: rest)) (manned : threads.Manned)
    (undisturbed : threads.Undisturbed (turn :: rest)) (stepped : Step threads turn next) :
    next.Orderly rest := by
  obtain ⟨timely, apart, _⟩ := undisturbed.first (step_eq_some_iff.mpr stepped)
  refine ⟨orderly.dated_step undisturbed stepped timely, fun thread key flight flies => ?_⟩
  rcases flies?_step stepped flies with flew | stored
  · exact orderly.flying_step manned undisturbed stepped timely apart flew flies
  · exact .inl stored

/-! ## Main result -/

/-- In an orderly schedule a turn that loses an entry has a reason of the entry for it. -/
theorem Orderly.retires_of_lost (orderly : threads.Orderly (turn :: rest))
    (manned : threads.Manned) (undisturbed : threads.Undisturbed (turn :: rest))
    (stepped : Step threads turn next) (member : entry ∈ threads.cache.entries)
    (lost : entry ∉ next.cache.entries) : Retires entry threads turn := by
  obtain ⟨timely, _⟩ := undisturbed.first (step_eq_some_iff.mpr stepped)
  rcases loses_of_lost stepped member lost with
    retires | ⟨flight, other, drops⟩ | ⟨key, stores, here, earlier⟩
  · exact retires
  · exact absurd (orderly.eq_of_dropsFor manned drops member).symm other
  · have current := current_of_stores timely stores
    have le := orderly.dated entry member _ (here ▸ mem_times_of_key? current _)
    exact absurd le (not_le.mpr earlier)

theorem retires_of_run (orderly : start.Orderly turns) (manned : start.Manned)
    (undisturbed : start.Undisturbed turns) (member : entry ∈ start.cache.entries)
    (ran : Schedule.run step start turns = some final) (lost : entry ∉ final.cache.entries) :
    Schedule.Occurs step (Retires entry) start turns := by
  induction turns generalizing start with
  | nil =>
      cases ran
      exact absurd member lost
  | cons turn turns ih =>
      obtain ⟨next, stepped, ranRest⟩ := Schedule.run_cons_eq_some_iff.mp ran
      have taken := step_eq_some_iff.mp stepped
      rw [Schedule.occurs_cons_iff stepped]
      by_cases kept : entry ∈ next.cache.entries
      · exact .inr (ih (orderly.step manned undisturbed taken) (manned.step taken)
          (undisturbed.first stepped).2.2 kept ranRest)
      · exact .inl (orderly.retires_of_lost manned undisturbed taken member kept)

/-- An undisturbed schedule is orderly wherever it is cut. -/
theorem orderly_of_run (orderly : start.Orderly (before ++ during)) (manned : start.Manned)
    (undisturbed : start.Undisturbed (before ++ during))
    (ran : Schedule.run step start before = some final) :
    final.Orderly during ∧ final.Undisturbed during := by
  induction before generalizing start with
  | nil =>
      cases ran
      exact ⟨orderly, undisturbed⟩
  | cons turn before ih =>
      obtain ⟨next, stepped, ranRest⟩ := Schedule.run_cons_eq_some_iff.mp ran
      have taken := step_eq_some_iff.mp stepped
      exact ih (orderly.step manned undisturbed taken) (manned.step taken)
        (undisturbed.first stepped).2.2 ranRest

/-- An entry is lost exactly if a turn loses it: its own probe fails, or that of another flight
under its key, or the path is stored again, be it for a later time or for an earlier one.  In an
undisturbed schedule it is lost for reasons of its own. -/
theorem lost_iff {changedAt : String → Option ℚ} (reached : after changedAt before = some start)
    (member : entry ∈ start.cache.entries)
    (ran : Schedule.run step start during = some final) :
    (entry ∉ final.cache.entries ↔ Schedule.Occurs step (Loses entry) start during) ∧
      ((idle changedAt).Undisturbed (before ++ during) →
        (entry ∉ final.cache.entries ↔ Schedule.Occurs step (Retires entry) start during)) := by
  have mannedIdle := manned_idle changedAt
  have manned := manned_of_run mannedIdle reached
  have begun := manned.stored entry member
  have loses := lost_iff_occurs begun member ran
  refine ⟨loses, fun undisturbed => ⟨fun lost => ?_, fun occurs => ?_⟩⟩
  · obtain ⟨orderly, undisturbed⟩ :=
      orderly_of_run (orderly_idle changedAt _) mannedIdle undisturbed reached
    exact retires_of_run orderly manned undisturbed member ran lost
  · obtain ⟨earlier, turn, rest, state, split, ranEarlier, retires⟩ := occurs
    exact loses.mpr ⟨earlier, turn, rest, state, split, ranEarlier, .inl retires⟩

/-! ## Schedules -/

/-- A thread asks for the picture that has been changed behind `earlierTurns`. -/
def renewingTurns : List (Turn ℚ) :=
  [.act 1 (.look "/a.png"), .act 1 .own]

theorem undisturbed_renewingTurns :
    (idle fun _ => some 1).Undisturbed (earlierTurns ++ renewingTurns) := by
  constructor
  · intro path
    by_cases here : path = "/a.png"
    · subst here
      simp [times, idle, earlierTurns, renewingTurns, Turn.timeOf?, List.filterMap_cons]
    · simp [times, idle, earlierTurns, renewingTurns, Turn.timeOf?, List.filterMap_cons,
        Ne.symm here]
  · refine Schedule.not_occurs_cons rfl ?_ <| Schedule.not_occurs_cons rfl ?_ <|
      Schedule.not_occurs_cons rfl ?_ <| Schedule.not_occurs_cons rfl ?_ <|
      Schedule.not_occurs_cons rfl ?_ Schedule.not_occurs_nil
    · rintro ⟨key, ⟨⟩, _⟩
    · rintro ⟨key, stores, late⟩
      cases stores with
      | seed stands =>
          cases stands
          exact late rfl
    · rintro ⟨key, ⟨⟩, _⟩
    · rintro ⟨key, ⟨⟩, _⟩
    · rintro ⟨key, stores, late⟩
      cases stores with
      | own stands =>
          cases stands
          exact late rfl
  · refine Schedule.not_occurs_cons rfl ?_ <| Schedule.not_occurs_cons rfl ?_ <|
      Schedule.not_occurs_cons rfl ?_ <| Schedule.not_occurs_cons rfl ?_ <|
      Schedule.not_occurs_cons rfl ?_ Schedule.not_occurs_nil
    · rintro ⟨_, _, _, _, _, _, ⟨⟩, _⟩
    · rintro ⟨_, _, _, prober, _, _, _, flies⟩
      by_cases here : prober = 0 <;>
        simp [here, advance, idle, Schedule.move, Place.flies?] at flies
    · rintro ⟨_, _, _, _, _, _, ⟨⟩, _⟩
    · rintro ⟨_, _, _, _, _, _, ⟨⟩, _⟩
    · rintro ⟨_, _, _, _, _, _, ⟨⟩, _⟩

/-- The entry that has been put in gives way to a probe of the changed picture. -/
theorem lost_renewingTurns :
    ∃ start final, after (fun _ => some 1) earlierTurns = some start ∧
      Schedule.run step start renewingTurns = some final ∧
      start.cache.entries = [(⟨"/a.png", 1⟩, 0)] ∧ final.cache.entries = [(⟨"/a.png", 2⟩, 1)] ∧
      Schedule.Occurs step (Retires (⟨"/a.png", 1⟩, 0)) start renewingTurns := by
  have evaluated : ∃ start final, after (fun _ => some 1) earlierTurns = some start ∧
      Schedule.run step start renewingTurns = some final ∧
      start.cache.entries = [(⟨"/a.png", 1⟩, 0)] ∧
      final.cache.entries = [(⟨"/a.png", 2⟩, 1)] :=
    ⟨_, _, rfl, rfl, rfl, rfl⟩
  obtain ⟨start, final, reached, ran, before, behind⟩ := evaluated
  have member : (⟨"/a.png", 1⟩, 0) ∈ start.cache.entries := by simp [before]
  have lost : (⟨"/a.png", 1⟩, 0) ∉ final.cache.entries := by simp [behind]
  obtain ⟨_, retires_iff⟩ := lost_iff reached member ran
  exact ⟨start, final, reached, ran, before, behind,
    (retires_iff undisturbed_renewingTurns).mp lost⟩

/-- While a thread probes a picture, another one puts it in, and then the probe fails. -/
def besideTurns : List (Turn ℚ) :=
  [.act 0 (.look "/a.png"), .act 0 .own, .act 0 .begin,
    .act 1 (.bring "/a.png" ⟨1, 1, 60, none, some 1, false, .image⟩), .act 1 .seed,
    .act 0 (.finish (.error (.probe (.notFound "/a.png"))))]

/-- A thread looks up a picture, which is changed then, and another thread looks it up again and
stores its flight first. -/
def lateTurns : List (Turn ℚ) :=
  [.act 0 (.look "/a.png"), .change "/a.png" (some 2), .act 1 (.look "/a.png"), .act 1 .own]

/-- An entry is lost to a turn without a reason of its own. -/
def LosesUnduly (changedAt : String → Option ℚ) (before : List (Turn ℚ)) (turn : Turn ℚ) : Prop :=
  (∀ path, ((idle changedAt).times path (before ++ [turn])).Pairwise (· ≤ ·)) ∧
    ∃ start final entry, after changedAt before = some start ∧ start.step turn = some final ∧
      entry ∈ start.cache.entries ∧ entry ∉ final.cache.entries ∧ ¬Retires entry start turn

/-- What has been put in is dropped for the failure of a probe that has begun before, and an
entry gives way to one for an earlier time. -/
theorem losesUnduly_beside_late :
    LosesUnduly (fun _ => some 1) besideTurns (.act 0 .drop) ∧
      LosesUnduly (fun _ => some 1) lateTurns (.act 0 .own) := by
  constructor
  · have evaluated : ∃ start final, after (fun _ => some 1) besideTurns = some start ∧
        start.step (.act 0 .drop) = some final ∧
        start.cache.entries = [(⟨"/a.png", 1⟩, 1)] ∧ final.cache.entries = [] ∧
        start.place 0 = .probed ⟨"/a.png", 1⟩ 0 (.error (.probe (.notFound "/a.png"))) :=
      ⟨_, _, rfl, rfl, rfl, rfl, rfl⟩
    obtain ⟨start, final, reached, stepped, before, behind, probed⟩ := evaluated
    refine ⟨fun path => by simp [times, idle, besideTurns, Turn.timeOf?, List.filterMap_cons],
      start, final, (⟨"/a.png", 1⟩, 1), reached, stepped, by simp [before], by simp [behind], ?_⟩
    rintro (⟨dropper, fault, stands, ⟨⟩⟩ | ⟨key, ⟨⟩, _⟩)
    cases probed.symm.trans stands
  · have evaluated : ∃ start final, after (fun _ => some 1) lateTurns = some start ∧
        start.step (.act 0 .own) = some final ∧
        start.cache.entries = [(⟨"/a.png", 2⟩, 0)] ∧ final.cache.entries = [(⟨"/a.png", 1⟩, 1)] ∧
        start.place 0 = .keyed ⟨"/a.png", 1⟩ :=
      ⟨_, _, rfl, rfl, rfl, rfl, rfl⟩
    obtain ⟨start, final, reached, stepped, before, behind, keyed⟩ := evaluated
    refine ⟨fun path => ?_, start, final, (⟨"/a.png", 2⟩, 0), reached, stepped, by simp [before],
      by simp [behind], ?_⟩
    · by_cases here : path = "/a.png"
      · subst here
        simp [times, idle, lateTurns, Turn.timeOf?, List.filterMap_cons]
      · simp [times, idle, lateTurns, Turn.timeOf?, List.filterMap_cons, Ne.symm here]
    · rintro (⟨dropper, fault, stands, ⟨⟩⟩ | ⟨key, stores, _, later⟩)
      cases stores with
      | own stands =>
          cases keyed.symm.trans stands
          norm_num at later

end Threads

end Montage.ProbeCache
