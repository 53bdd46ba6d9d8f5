import Montage.Proofs.Media.Cache.Results
import Montage.Proofs.Rational

/-!
# One probe at a time

While a path is not changed and nothing is brought from elsewhere, all threads that know a
key of the path know the same one, and a flight that has been stored stays stored until its
probe has failed.  So nobody probes the path while somebody else does, nor once a probe has
succeeded, and behind a failure that has been dropped the next to ask begins anew.  Times
are rationals, which are equal only to themselves.
-/

namespace Montage.ProbeCache

variable {cache : ProbeCache ℚ} {key : ProbeKey ℚ} {flight : ℕ}

/-! ## Keys -/

theorem same_iff {left right : ProbeKey ℚ} : left.same right = true ↔ left = right := by
  rcases left with ⟨leftPath, leftTime⟩
  rcases right with ⟨rightPath, rightTime⟩
  simp [ProbeKey.same, Scalar.eq_rat_iff]

theorem flight?_eq_none_iff :
    cache.flight? key = none ↔ ∀ flight, (key, flight) ∉ cache.entries := by
  rw [flight?, Option.map_eq_none_iff, List.find?_eq_none]
  constructor
  · intro differs flight member
    exact differs (key, flight) member (same_iff.mpr rfl)
  · rintro absent ⟨under, flight⟩ member same
    cases same_iff.mp same
    exact absent flight member

theorem mem_discard_iff {entry : ProbeKey ℚ × ℕ} :
    entry ∈ (cache.discard key).entries ↔ entry ∈ cache.entries ∧ entry.1 ≠ key := by
  rw [mem_discard, ← Bool.not_eq_true, same_iff]

namespace Threads

variable {threads next start final : Threads ℚ} {turn : Turn ℚ}
  {turns before during : List (Turn ℚ)} {thread : ℕ} {path : String}

/-! ## Calm threads -/

/-- No thread knows a key of the path. -/
def Resting (threads : Threads ℚ) (path : String) : Prop :=
  ∀ thread key, (threads.place thread).key? = some key → key.path ≠ path

/-- All keys of the path are up to date, a flight under one is stored for as long as it may
succeed, and nothing is brought for the path. -/
structure Calm (threads : Threads ℚ) (path : String) : Prop where
  current : ∀ thread key, (threads.place thread).key? = some key → key.path = path →
    threads.key? path = some key
  stored : ∀ thread key flight, (threads.place thread).flies? = some (key, flight) →
    key.path = path → (key, flight) ∈ threads.cache.entries
  unbrought : ∀ thread key info, threads.place thread = .bringing key info → key.path ≠ path

theorem Resting.calm (resting : threads.Resting path) : threads.Calm path := by
  constructor
  · intro thread key known here
    exact absurd here (resting thread key known)
  · intro thread key flight flies here
    exact absurd here (resting thread key (Place.key?_of_flies? flies))
  · intro thread key info brings
    apply resting thread key
    rw [brings]
    rfl

theorem path_of_key? (dated : threads.key? path = some key) : key.path = path := by
  rcases Option.map_eq_some_iff.mp dated with ⟨time, _, rfl⟩
  rfl

/-- Threads learn a key by looking it up. -/
theorem key?_step (stepped : Step threads turn next)
    (known : (next.place thread).key? = some key) :
    (threads.place thread).key? = some key ∨ threads.key? key.path = some key := by
  rcases stepped.place_eq_or thread with stays | ⟨move, rfl⟩
  · exact .inl (stays ▸ known)
  · cases stepped with
    | look _ dated =>
        rw [advance_place_self] at known
        cases known
        exact .inr (path_of_key? dated ▸ dated)
    | bring _ dated =>
        rw [advance_place_self] at known
        cases known
        exact .inr (path_of_key? dated ▸ dated)
    | own stands _ =>
        rw [advance_place_self] at known
        exact .inl (stands ▸ known)
    | begin stands =>
        rw [advance_place_self] at known
        exact .inl (stands ▸ known)
    | finish stands =>
        rw [advance_place_self] at known
        exact .inl (stands ▸ known)
    | _ =>
        rw [advance_place_self] at known
        cases known

/-- The flight of a thread has been stored by the turn or was under the key before. -/
theorem flies?_step (stepped : Step threads turn next)
    (flies : (next.place thread).flies? = some (key, flight)) :
    (threads.place thread).flies? = some (key, flight) ∨ (key, flight) ∈ next.cache.entries := by
  rcases stepped.place_eq_or thread with stays | ⟨move, rfl⟩
  · exact .inl (stays ▸ flies)
  · cases stepped with
    | own _ _ =>
        rw [advance_place_self] at flies
        cases flies
        exact .inr (mem_launch.mpr (.inr rfl))
    | begin stands =>
        rw [advance_place_self] at flies
        exact .inl (stands ▸ flies)
    | finish stands =>
        rw [advance_place_self] at flies
        exact .inl (stands ▸ flies)
    | _ =>
        rw [advance_place_self] at flies
        cases flies

theorem key?_eq_of_keeps (keeps : turn.keeps path = true) (stepped : Step threads turn next) :
    next.key? path = threads.key? path := by
  cases stepped with
  | @change other time =>
      have elsewhere : path ≠ other := fun here => by simp [Turn.keeps, here] at keeps
      simp [key?, Threads.change, elsewhere]
  | _ => rfl

/-- The entry of a path under its key stays, but for the failure of its probe. -/
theorem Calm.mem_step (calm : threads.Calm path) (manned : threads.Manned)
    (stepped : Step threads turn next) (dated : threads.key? path = some key)
    (member : (key, flight) ∈ threads.cache.entries) :
    (key, flight) ∈ next.cache.entries ∨
      ∃ dropper fault, threads.place dropper = .probed key flight (.error fault) ∧
        turn = .act dropper .drop := by
  have here := path_of_key? dated
  cases stepped with
  | @own mover other stands free =>
      left
      apply mem_launch.mpr
      left
      refine ⟨member, fun samePath => ?_⟩
      have otherDated := calm.current mover other (by rw [stands]; rfl) (samePath.symm.trans here)
      cases dated.symm.trans otherDated
      exact flight?_eq_none_iff.mp free flight member
  | @drop mover failed other fault stands =>
      by_cases same : key = other
      · right
        subst same
        have stored := calm.stored mover key failed (by rw [stands]; rfl) here
        cases manned.one.eq member stored rfl
        exact ⟨mover, fault, stands, rfl⟩
      · exact .inl (mem_discard_iff.mpr ⟨member, same⟩)
  | @seed mover other info stands =>
      left
      apply mem_launch.mpr
      left
      refine ⟨member, fun samePath => ?_⟩
      exact calm.unbrought mover other info stands (samePath.symm.trans here)
  | _ => exact .inl member

theorem Calm.step (calm : threads.Calm path) (manned : threads.Manned)
    (keeps : turn.keeps path = true) (nothing : turn.bringsNothing = true)
    (stepped : Step threads turn next) : next.Calm path := by
  constructor
  · intro thread key known here
    rw [key?_eq_of_keeps keeps stepped]
    rcases key?_step stepped known with knew | dated
    · exact calm.current thread key knew here
    · exact here ▸ dated
  · intro thread key flight flies here
    rcases flies?_step stepped flies with flew | member
    · have dated := calm.current thread key (Place.key?_of_flies? flew) here
      have member := calm.stored thread key flight flew here
      rcases calm.mem_step manned stepped dated member with kept | ⟨dropper, fault, stands, rfl⟩
      · exact kept
      · -- the thread that drops the flight is the one that carries it, and flies no more
        have same := manned.sound.once thread dropper flight
          (Place.carries?_of_flies? flew) (by rw [carries, stands]; rfl)
        subst same
        cases stepped with
        | drop _ =>
            rw [advance_place_self] at flies
            cases flies
    · exact member
  · intro thread key info brings
    rcases stepped.place_eq_or thread with stays | ⟨move, rfl⟩
    · exact calm.unbrought thread key info (stays.symm.trans brings)
    · cases stepped with
      | bring _ _ => cases nothing
      | _ =>
          rw [advance_place_self] at brings
          cases brings

/-! ## Behind a success -/

/-- A probe of the path succeeds. -/
def Succeeds (path : String) (threads : Threads ℚ) (turn : Turn ℚ) : Prop :=
  ∃ prober key flight info, threads.place prober = .probing key flight ∧ key.path = path ∧
    turn = .act prober (.finish (.ok info))

/-- A flight is stored for the path whose probe has succeeded. -/
def Known (threads : Threads ℚ) (path : String) : Prop :=
  ∃ key flight info, threads.key? path = some key ∧ (key, flight) ∈ threads.cache.entries ∧
    threads.Landed flight (.ok info)

theorem Calm.known_of_succeeds (calm : threads.Calm path) (stepped : Step threads turn next)
    (succeeds : Succeeds path threads turn) : next.Known path := by
  rcases succeeds with ⟨prober, key, flight, info, stands, here, rfl⟩
  have dated := calm.current prober key (by rw [stands]; rfl) here
  have member := calm.stored prober key flight (by rw [stands]; rfl) here
  have landed := landed_of_reports stepped ⟨prober, key, stands, rfl⟩
  cases stepped with
  | finish _ => exact ⟨key, flight, info, dated, member, landed⟩

theorem Known.step (known : threads.Known path) (calm : threads.Calm path)
    (manned : threads.Manned) (keeps : turn.keeps path = true) (stepped : Step threads turn next) :
    next.Known path := by
  rcases known with ⟨key, flight, info, dated, member, landed⟩
  refine ⟨key, flight, info, ?_, ?_, manned.landed_step stepped landed⟩
  · rw [key?_eq_of_keeps keeps stepped, dated]
  · rcases calm.mem_step manned stepped dated member with kept | ⟨dropper, fault, stands, _⟩
    · exact kept
    · have failed : threads.Landed flight (.error fault) := by
        right
        use dropper
        rw [stands]
        rfl
      cases manned.landed_unique landed failed

theorem probes_eq_true_iff :
    threads.probes path thread = true ↔
      ∃ key flight, threads.place thread = .probing key flight ∧ key.path = path := by
  rw [probes]
  split
  · rename_i key flight stands
    simp [stands]
  · rename_i elsewhere
    simp only [Bool.false_eq_true, false_iff]
    rintro ⟨key, flight, stands, _⟩
    exact elsewhere key flight stands

/-- Two probes of a path are one. -/
theorem Calm.eq_of_probes (calm : threads.Calm path) (manned : threads.Manned) {first second : ℕ}
    (firstProbes : threads.probes path first = true)
    (secondProbes : threads.probes path second = true) : first = second := by
  rcases probes_eq_true_iff.mp firstProbes with ⟨firstKey, firstFlight, firstStands, firstHere⟩
  rcases probes_eq_true_iff.mp secondProbes with ⟨key, flight, secondStands, secondHere⟩
  have firstStored := calm.stored first firstKey firstFlight (by rw [firstStands]; rfl) firstHere
  have secondStored := calm.stored second key flight (by rw [secondStands]; rfl) secondHere
  have same := manned.one.eq firstStored secondStored (firstHere.trans secondHere.symm)
  apply manned.sound.once first second firstFlight
  · rw [carries, firstStands]
    rfl
  · rw [carries, secondStands]
    exact congrArg (fun entry => some entry.2) same.symm

/-- Nobody probes a path whose probe has succeeded. -/
theorem Known.probes_eq_false (known : threads.Known path) (calm : threads.Calm path)
    (manned : threads.Manned) : threads.probes path thread = false := by
  rw [← Bool.not_eq_true, probes_eq_true_iff]
  rintro ⟨key, flight, stands, here⟩
  rcases known with ⟨knownKey, knownFlight, info, dated, member, landed⟩
  have stored := calm.stored thread key flight (by rw [stands]; rfl) here
  cases manned.one.eq stored member (here.trans (path_of_key? dated).symm)
  have carried : threads.carries thread = some flight := by
    rw [carries, stands]
    rfl
  rcases landed with ended | ⟨other, reports⟩
  · have underWay := (manned.sound.carried flight).mpr ⟨thread, carried⟩
    cases ended.symm.trans underWay
  · cases manned.sound.once thread other flight carried (Place.carries?_of_reports? reports)
    rw [stands] at reports
    cases reports

/-! ## Behind a failure -/

/-- A failed probe of the path is dropped. -/
def Drops (path : String) (threads : Threads ℚ) (turn : Turn ℚ) : Prop :=
  ∃ dropper key flight fault, threads.place dropper = .probed key flight (.error fault) ∧
    key.path = path ∧ turn = .act dropper .drop

/-- A call for the path asks the cache under the lock. -/
def Asks (path : String) (threads : Threads ℚ) (turn : Turn ℚ) : Prop :=
  ∃ caller key, threads.place caller = .keyed key ∧ key.path = path ∧
    (turn = .act caller .join ∨ turn = .act caller .own)

/-- Nothing is stored for the path. -/
def Vacant (threads : Threads ℚ) (path : String) : Prop :=
  ∀ entry ∈ threads.cache.entries, entry.1.path ≠ path

theorem Calm.vacant_of_drops (calm : threads.Calm path) (manned : threads.Manned)
    (stepped : Step threads turn next) (drops : Drops path threads turn) : next.Vacant path := by
  rcases drops with ⟨dropper, key, flight, fault, stands, here, rfl⟩
  have stored := calm.stored dropper key flight (by rw [stands]; rfl) here
  cases stepped with
  | drop standsToo =>
      cases stands.symm.trans standsToo
      intro entry member samePath
      rcases mem_discard_iff.mp member with ⟨earlier, differs⟩
      exact differs (congrArg Prod.fst (manned.one.eq earlier stored (samePath.trans here.symm)))

theorem Vacant.step (vacant : threads.Vacant path) (calm : threads.Calm path)
    (unasked : ¬Asks path threads turn) (stepped : Step threads turn next) : next.Vacant path := by
  intro entry member samePath
  cases stepped with
  | @own caller key stands _ =>
      rcases mem_launch.mp member with ⟨earlier, _⟩ | rfl
      · exact vacant entry earlier samePath
      · exact unasked ⟨caller, key, stands, samePath, .inr rfl⟩
  | drop _ => exact vacant entry (mem_discard_iff.mp member).1 samePath
  | @seed mover key info stands =>
      rcases mem_launch.mp member with ⟨earlier, _⟩ | rfl
      · exact vacant entry earlier samePath
      · exact calm.unbrought mover key info stands samePath
  | _ => exact vacant entry member samePath

/-- A call that finds nothing stored cannot but begin a probe of its own. -/
theorem Vacant.renews (vacant : threads.Vacant path) {caller : ℕ}
    (stands : threads.place caller = .keyed key) (here : key.path = path) :
    threads.act caller .join = none ∧
      ∃ owned begun, threads.act caller .own = some owned ∧ owned.act caller .begin = some begun ∧
        begun.probes path caller = true := by
  have free : threads.cache.flight? key = none :=
    flight?_eq_none_iff.mpr fun flight member => vacant _ member here
  constructor
  · rw [Option.eq_none_iff_forall_ne_some]
    intro joined stepped
    have taken : Step threads (.act caller .join) joined := step_eq_some_iff.mp stepped
    cases taken with
    | join standsToo stored =>
        cases stands.symm.trans standsToo
        cases free.symm.trans stored
  · let flight := threads.cache.flights.length
    have owns := step_eq_some_iff.mpr (Step.own stands free)
    have owner : (threads.advance caller (.owner key flight) (threads.cache.launch key none)).place
        caller = .owner key flight := advance_place_self
    refine ⟨_, _, owns, step_eq_some_iff.mpr (.begin owner), ?_⟩
    exact probes_eq_true_iff.mpr ⟨key, flight, advance_place_self, here⟩

/-! ## Calm schedules -/

/-- No turn changes the path or brings anything. -/
def Still (path : String) (turns : List (Turn ℚ)) : Prop :=
  ∀ turn ∈ turns, turn.keeps path = true ∧ turn.bringsNothing = true

theorem calm_of_run (manned : start.Manned) (calm : start.Calm path) (still : Still path turns)
    (ran : Schedule.run step start turns = some final) : final.Manned ∧ final.Calm path := by
  apply Schedule.invariant_of_run (fun threads => threads.Manned ∧ threads.Calm path) _
    ⟨manned, calm⟩ ran
  rintro threads turn next member ⟨manned, calm⟩ stepped
  have taken := step_eq_some_iff.mp stepped
  rcases still turn member with ⟨keeps, nothing⟩
  exact ⟨manned.step taken, calm.step manned keeps nothing taken⟩

/-- In a calm schedule the threads are calm on both sides of every turn. -/
private theorem calm_around {earlier rest : List (Turn ℚ)} {middle : Threads ℚ}
    (manned : start.Manned) (calm : start.Calm path) (still : Still path (earlier ++ turn :: rest))
    (ranEarlier : Schedule.run step start earlier = some middle)
    (ran : Schedule.run step start (earlier ++ turn :: rest) = some final) :
    (middle.Manned ∧ middle.Calm path) ∧ ∃ next, Step middle turn next ∧
      (next.Manned ∧ next.Calm path) ∧ Still path rest ∧
        Schedule.run step next rest = some final := by
  rcases Schedule.run_append_eq_some_iff.mp ran with ⟨_, ranAgain, ranLater⟩
  cases ranEarlier.symm.trans ranAgain
  rcases Schedule.run_cons_eq_some_iff.mp ranLater with ⟨next, stepped, ranRest⟩
  rcases List.forall_mem_append.mp still with ⟨stillEarlier, stillLater⟩
  rcases List.forall_mem_cons.mp stillLater with ⟨⟨keeps, nothing⟩, stillRest⟩
  have both := calm_of_run manned calm stillEarlier ranEarlier
  have taken := step_eq_some_iff.mp stepped
  have bothNext := And.intro (both.1.step taken) (both.2.step both.1 keeps nothing taken)
  exact ⟨both, next, taken, bothNext, stillRest, ranRest⟩

/-- A path whose probe has succeeded stays known. -/
theorem known_of_run (known : start.Known path) (manned : start.Manned) (calm : start.Calm path)
    (still : Still path turns) (ran : Schedule.run step start turns = some final) :
    final.Known path := by
  have kept : ∀ {threads : Threads ℚ} {turn next}, turn ∈ turns →
      threads.Manned ∧ threads.Calm path ∧ threads.Known path → threads.step turn = some next →
      next.Manned ∧ next.Calm path ∧ next.Known path := by
    rintro threads turn next member ⟨manned, calm, known⟩ stepped
    have taken := step_eq_some_iff.mp stepped
    rcases still turn member with ⟨keeps, nothing⟩
    exact ⟨manned.step taken, calm.step manned keeps nothing taken,
      known.step calm manned keeps taken⟩
  exact (Schedule.invariant_of_run _ kept ⟨manned, calm, known⟩ ran).2.2

/-- A path stays vacant until a call asks for it. -/
theorem vacant_of_run (vacant : start.Vacant path) (manned : start.Manned) (calm : start.Calm path)
    (still : Still path turns) (unasked : ¬Schedule.Occurs step (Asks path) start turns)
    (ran : Schedule.run step start turns = some final) : final.Vacant path := by
  have kept : ∀ {threads : Threads ℚ} {turn next}, turn ∈ turns →
      threads.Manned ∧ threads.Calm path ∧ threads.Vacant path → ¬Asks path threads turn →
      threads.step turn = some next → next.Manned ∧ next.Calm path ∧ next.Vacant path := by
    rintro threads turn next member ⟨manned, calm, vacant⟩ unasked stepped
    have taken := step_eq_some_iff.mp stepped
    rcases still turn member with ⟨keeps, nothing⟩
    exact ⟨manned.step taken, calm.step manned keeps nothing taken,
      vacant.step calm unasked taken⟩
  exact (Schedule.holds_of_run _ kept ⟨manned, calm, vacant⟩ unasked ran).2.2

/-! ## Main result -/

/-- What callers of a path can rely on behind a schedule, which comes to `start` by the turns
`before` and from there to `final` by the turns `during`. -/
structure SharesProbes (changedAt : String → Option ℚ) (before during : List (Turn ℚ))
    (start final : Threads ℚ) (path : String) : Prop where
  /-- No two threads probe the path at a time. -/
  alone : ∀ first second, final.probes path first = true → final.probes path second = true →
    first = second
  /-- A call that has found a flight under way, be it that its probe has failed and has not been
  dropped yet, waits for a thread that can go on with the flight, or gets what the one probe of
  the flight has reported. -/
  shared : ∀ caller flight,
    Schedule.Since step (Joins caller flight) (Moves caller) (idle changedAt) (before ++ during) →
      (∃ owner move, final.carries owner = some flight ∧ (final.act owner move).isSome = true) ∨
        ∃ result, final.answer? caller .receive = some result ∧
          ∀ other, Schedule.Occurs step (Reports flight other) (idle changedAt) (before ++ during) ↔
            other = result
  /-- Behind a success nobody probes the path. -/
  kept : Schedule.Occurs step (Succeeds path) start during →
    ∀ thread, final.probes path thread = false
  /-- Behind a failure that has been dropped, whoever asks first begins a probe. -/
  renewed : Schedule.Since step (Drops path) (Asks path) start during →
    ∀ caller key, final.place caller = .keyed key → key.path = path →
      final.act caller .join = none ∧
        ∃ owned begun, final.act caller .own = some owned ∧
          owned.act caller .begin = some begun ∧ begun.probes path caller = true

/-- As long as a path is not changed and nothing is brought, all calls for the path share one
probe at a time, and none follows a success.  Calls that have looked up the path before that
must have ended. -/
theorem sharesProbes {changedAt : String → Option ℚ}
    (reached : after changedAt before = some start) (resting : start.Resting path)
    (still : Still path during) (ran : Schedule.run step start during = some final) :
    SharesProbes changedAt before during start final path := by
  have mannedStart := manned_of_run (manned_idle changedAt) reached
  have calmStart := resting.calm
  rcases calm_of_run mannedStart calmStart still ran with ⟨manned, calm⟩
  constructor
  · intro first second firstProbes secondProbes
    exact calm.eq_of_probes manned firstProbes secondProbes
  · intro caller flight joined
    have whole : after changedAt (before ++ during) = some final :=
      Schedule.run_append_eq_some_iff.mpr ⟨start, reached, ran⟩
    rcases answer_of_joined joined whole with ⟨owner, carried⟩ | answered
    · rcases exists_act_of_carries carried with ⟨move, moves⟩
      exact .inl ⟨owner, move, carried, moves⟩
    · exact .inr answered
  · rintro ⟨earlier, turn, rest, middle, rfl, ranEarlier, succeeds⟩ thread
    rcases calm_around mannedStart calmStart still ranEarlier ran with
      ⟨⟨_, calmMiddle⟩, next, taken, ⟨mannedNext, calmNext⟩, stillRest, ranRest⟩
    have known := calmMiddle.known_of_succeeds taken succeeds
    have knownFinal := known_of_run known mannedNext calmNext stillRest ranRest
    exact knownFinal.probes_eq_false calm manned
  · rintro ⟨earlier, turn, rest, middle, _, rfl, ranEarlier, drops, stepped, unasked⟩
      caller key stands here
    rcases calm_around mannedStart calmStart still ranEarlier ran with
      ⟨⟨mannedMiddle, calmMiddle⟩, next, taken, ⟨mannedNext, calmNext⟩, stillRest, ranRest⟩
    cases stepped.symm.trans (step_eq_some_iff.mpr taken)
    have vacant := calmMiddle.vacant_of_drops mannedMiddle taken drops
    have vacantFinal := vacant_of_run vacant mannedNext calmNext stillRest unasked ranRest
    exact vacantFinal.renews stands here

/-! ## A schedule -/

/-- A picture is put in from elsewhere and changed afterwards. -/
def earlierTurns : List (Turn ℚ) :=
  [.act 0 (.bring "/a.png" ⟨1, 1, 60, none, some 1, false, .image⟩), .act 0 .seed,
    .change "/a.png" (some 2)]

/-- Four threads ask for the picture.  The probe of the first one fails, the second one joins
before that and the third one between the failure and its end.  The last one has looked up
the picture when the failure is dropped, and has not asked yet. -/
def sharingTurns : List (Turn ℚ) :=
  [.act 0 (.look "/a.png"), .act 1 (.look "/a.png"), .act 0 .own, .act 2 (.look "/a.png"),
    .act 0 .begin, .act 1 .join, .act 0 (.finish (.error (.probe (.notFound "/a.png")))),
    .act 2 .join, .act 0 .drop, .act 3 (.look "/a.png"), .act 0 .publish]

/-- The calls that have joined get the failure, and the last one begins anew. -/
theorem sharesProbes_sharingTurns :
    ∃ start final, after (fun _ => some 1) earlierTurns = some start ∧
      start.Resting "/a.png" ∧ Still "/a.png" sharingTurns ∧
      Schedule.run step start sharingTurns = some final ∧
      SharesProbes (fun _ => some 1) earlierTurns sharingTurns start final "/a.png" ∧
      (final.answer? 1 .receive).isSome = true ∧ (final.answer? 2 .receive).isSome = true ∧
      (final.act 3 .own).isSome = true := by
  have still : Still "/a.png" sharingTurns := by
    intro turn member
    have all : sharingTurns.all fun turn => turn.keeps "/a.png" && turn.bringsNothing := by
      decide +kernel
    simpa using List.all_eq_true.mp all turn member
  have begins : ∃ start, after (fun _ => some 1) earlierTurns = some start ∧
      (∀ thread, start.place thread = .outside) ∧
      (Schedule.run step start sharingTurns).any (fun final =>
        (final.answer? 1 .receive).isSome && (final.answer? 2 .receive).isSome &&
          (final.act 3 .own).isSome) = true := by
    refine ⟨_, rfl, fun thread => ?_, by decide +kernel⟩
    by_cases first : thread = 0 <;> simp [first, Schedule.move, advance, change, idle]
  rcases begins with ⟨start, reached, outside, ends⟩
  rcases (Option.any_eq_true _ _).mp ends with ⟨final, ran, answers⟩
  have resting : start.Resting "/a.png" := by
    intro thread key known
    rw [outside] at known
    cases known
  simp only [Bool.and_eq_true] at answers
  rcases answers with ⟨⟨second, third⟩, last⟩
  exact ⟨start, final, reached, resting, still, ran, sharesProbes reached resting still ran,
    second, third, last⟩

end Threads

end Montage.ProbeCache
