import Montage.Media.FanOut.Crew
import Montage.Proofs.Media.FanOut.Pool
import Montage.Proofs.Media.FanOut.Serving

/-!
# Turns of workers that share a cache

Whatever the order of their turns, the calls of a pool for its files all come to what they would
come to alone.  No call waits for ever, because the thread that carries the flight it waits for
can go on, and every call ends within a few turns.
-/

namespace Montage.FanOut

open ProbeCache (Place Move Threads answer)

variable {α : Type} [Scalar α]

/-! ## Calls -/

/-- The key of a file, if it exists. -/
def keyOf (world : Files α) (file : String) : Option (ProbeKey α) :=
  (world.changedAt (Crew.path file)).map fun time => ⟨Crew.path file, time⟩

/-- Files with the same path have the same key. -/
theorem eq_of_keyOf {world : Files α} {file other : String} {key otherKey : ProbeKey α}
    (dated : keyOf world file = some key) (datedToo : keyOf world other = some otherKey)
    (samePath : key.path = otherKey.path) : key = otherKey := by
  obtain ⟨time, isTime, rfl⟩ := Option.map_eq_some_iff.mp dated
  obtain ⟨timeToo, isTimeToo, rfl⟩ := Option.map_eq_some_iff.mp datedToo
  have paths : Crew.path file = Crew.path other := samePath
  rw [paths, isTimeToo] at isTime
  cases isTime
  rw [paths]

/-- What a call for a file comes to alone. -/
def comesTo (world : Files α) (cache : ProbeCache α) (file : String) : Result α (MediaInfo α) :=
  match keyOf world file with
  | none => .error (.probe (.notFound (Crew.path file)))
  | some key => answer world cache key

/-- The key that a thread calls for. -/
def called (world : Files α) (clips : List (Clip α)) (thread : ℕ) : Option (ProbeKey α) :=
  (files clips)[thread]?.bind (keyOf world)

namespace Crew

variable {world : Files α} {cache : ProbeCache α} {clips : List (Clip α)} {workers : ℤ}
  {crew next : Crew α} {turn : Turn} {turns : List Turn} {file other : String}

omit [Scalar α] in
/-- The calls for two files are different threads. -/
theorem thread_inj (member : file ∈ files clips) (same : thread clips file = thread clips other) :
    file = other :=
  (List.idxOf_inj member).mp same

theorem called_thread (world : Files α) (member : file ∈ files clips) :
    called world clips (thread clips file) = keyOf world file := by
  have isFile : (files clips)[thread clips file]? = some file := by
    rw [List.getElem?_eq_some_iff]
    exact ⟨List.idxOf_lt_length_of_mem member, List.getElem_idxOf _⟩
  rw [called, isFile, Option.bind_some]

theorem consistent_called (world : Files α) (clips : List (Clip α)) :
    Threads.Consistent (called world clips) := by
  intro first second key other calls callsToo samePath
  obtain ⟨file, _, dated⟩ := Option.bind_eq_some_iff.mp calls
  obtain ⟨fileToo, _, datedToo⟩ := Option.bind_eq_some_iff.mp callsToo
  exact eq_of_keyOf dated datedToo samePath

/-! ## Turns -/

/-- What a turn asks of a crew, and what it makes of it. -/
inductive Step (world : Files α) (clips : List (Clip α)) (workers : ℤ) (crew : Crew α) :
    Turn → Crew α → Prop
  | start {pool : Pool α} (started : Pool.Step workers crew.pool .start pool) :
      Step world clips workers crew .start { crew with pool }
  | miss {file : String} (busy : file ∈ crew.pool.busy)
      (misses : misses crew.threads file (crew.threads.place (thread clips file)) = true) :
      Step world clips workers crew (.go file)
        { crew with pool := crew.pool.close file (.error (.probe (.notFound (path file)))) }
  | move {file : String} {threads : Threads α} (busy : file ∈ crew.pool.busy)
      (present : misses crew.threads file (crew.threads.place (thread clips file)) = false)
      (moved : Threads.Step crew.threads (.act (thread clips file)
        (nextMove world crew.threads.cache file (crew.threads.place (thread clips file)))) threads)
      (silent : crew.threads.answer? (thread clips file)
        (nextMove world crew.threads.cache file (crew.threads.place (thread clips file))) = none) :
      Step world clips workers crew (.go file) { crew with threads }
  | answer {file : String} {threads : Threads α} {result : Result α (MediaInfo α)}
      (busy : file ∈ crew.pool.busy)
      (present : misses crew.threads file (crew.threads.place (thread clips file)) = false)
      (moved : Threads.Step crew.threads (.act (thread clips file)
        (nextMove world crew.threads.cache file (crew.threads.place (thread clips file)))) threads)
      (answered : crew.threads.answer? (thread clips file)
        (nextMove world crew.threads.cache file (crew.threads.place (thread clips file))) =
          some result) :
      Step world clips workers crew (.go file) ⟨crew.pool.close file result, threads⟩

theorem step_eq_some_iff :
    crew.step world clips workers turn = some next ↔ Step world clips workers crew turn next := by
  have closed : ∀ {file result}, file ∈ crew.pool.busy →
      crew.pool.step workers (.finish file result) = some (crew.pool.close file result) :=
    fun busy => Pool.step_eq_some_iff.mpr (.finish busy _)
  constructor
  · intro stepped
    cases turn with
    | start =>
        obtain ⟨pool, started, rfl⟩ := Option.map_eq_some_iff.mp stepped
        exact .start (Pool.step_eq_some_iff.mp started)
    | go file =>
        simp only [step, go] at stepped
        split at stepped
        · cases stepped
        · rename_i isBusy
          have busy : file ∈ crew.pool.busy := by simpa using isBusy
          rw [closed busy] at stepped
          split at stepped
          · rename_i misses
            cases stepped
            exact .miss busy misses
          · rename_i present
            obtain ⟨threads, moved, stepped⟩ := Option.bind_eq_some_iff.mp stepped
            have moved := Threads.step_eq_some_iff.mp
              (show crew.threads.step (.act _ _) = some threads from moved)
            split at stepped
            · rename_i result answered
              rw [closed busy] at stepped
              cases stepped
              exact .answer busy (by simpa using present) moved answered
            · rename_i silent
              cases stepped
              exact .move busy (by simpa using present) moved silent
  · intro taken
    cases taken with
    | start started => simp [step, Pool.step_eq_some_iff.mpr started]
    | miss busy misses => simp [step, go, busy, misses, closed busy]
    | move busy present moved silent =>
        have moved : crew.threads.act _ _ = some _ := Threads.step_eq_some_iff.mpr moved
        simp [step, go, busy, present, moved, silent]
    | answer busy present moved answered =>
        have moved : crew.threads.act _ _ = some _ := Threads.step_eq_some_iff.mpr moved
        simp [step, go, busy, present, moved, answered, closed busy]

/-! ## Calls are served -/

/-- The call for a file looks up its own key, and probes the file as it is. -/
theorem fair_nextMove (serves : Threads.Serves world cache (called world clips) crew.threads)
    (dated : crew.threads.changedAt = world.changedAt) (member : file ∈ files clips) :
    Threads.Fair world (called world clips) crew.threads (.act (thread clips file)
      (nextMove world crew.threads.cache file (crew.threads.place (thread clips file)))) := by
  cases stands : crew.threads.place (thread clips file) with
  | outside =>
      change crew.threads.key? (path file) = _
      rw [called_thread world member, keyOf, Threads.key?, dated]
  | keyed key =>
      rw [nextMove]
      split <;> trivial
  | probing key flight =>
      intro under number standsToo
      cases stands.symm.trans standsToo
      rfl
  | probed key flight result => cases result <;> trivial
  | bringing key info => exact serves.unbrought _ key info stands
  | _ => trivial

/-- A move changes no file. -/
theorem changedAt_eq_of_act {threads next : Threads α} {number : ℕ} {move : Move α}
    (moved : Threads.Step threads (.act number move) next) : next.changedAt = threads.changedAt := by
  cases moved <;> rfl

/-- A move of one thread leaves the others where they are. -/
theorem place_of_act_of_ne {threads next : Threads α} {number other : ℕ} {move : Move α}
    (moved : Threads.Step threads (.act number move) next) (elsewhere : other ≠ number) :
    next.place other = threads.place other := by
  refine (moved.place_eq_or other).resolve_right ?_
  rintro ⟨_, same⟩
  cases same
  exact elsewhere rfl

/-- A call that is answered has ended. -/
theorem place_of_answered {threads next : Threads α} {number : ℕ} {move : Move α}
    {result : Result α (MediaInfo α)} (moved : Threads.Step threads (.act number move) next)
    (answered : threads.answer? number move = some result) : next.place number = .outside := by
  cases moved with
  | land _ => exact Threads.advance_place_self
  | crash _ => exact Threads.advance_place_self
  | receive _ _ => exact Threads.advance_place_self
  | _ => cases answered

omit [Scalar α] in
/-- Only a call that has not begun misses its file. -/
theorem misses_iff {threads : Threads α} {place : Place α} :
    misses threads file place = true ↔ place = .outside ∧ threads.key? (path file) = none := by
  cases place <;> simp [misses]

/-- What holds of a crew after any turns. -/
structure Sound (world : Files α) (cache : ProbeCache α) (clips : List (Clip α)) (workers : ℤ)
    (crew : Crew α) : Prop where
  runs : ∃ turns, crew.pool.Runs workers clips turns
  serves : Threads.Serves world cache (called world clips) crew.threads
  dated : crew.threads.changedAt = world.changedAt
  /-- Only the calls for files that are being probed are under way. -/
  inside : ∀ number, crew.threads.place number ≠ .outside →
    ∃ file ∈ crew.pool.busy, number = thread clips file
  ended : ∀ entry ∈ crew.pool.ended, entry.2 = comesTo world cache entry.1

namespace Sound

theorem ofClips (rests : cache.AtRest) :
    (ofClips world cache clips).Sound world cache clips workers where
  runs := ⟨[], Pool.runs_ofClips⟩
  serves := Threads.serves_of_atRest rests world.changedAt
  dated := rfl
  inside _ inside := (inside rfl).elim
  ended := nofun

variable (sound : crew.Sound world cache clips workers)

include sound

theorem mem_files (busy : file ∈ crew.pool.busy) : file ∈ files clips := by
  obtain ⟨_, runs⟩ := sound.runs
  exact runs.once.mem_iff.mp (List.mem_append_left _ (List.mem_append_right _ busy))

theorem nodup_filed : crew.pool.filed.Nodup := by
  obtain ⟨_, runs⟩ := sound.runs
  exact runs.once.nodup_iff.mpr (nodup_files clips)

/-- A call for a file that does not exist is refused. -/
theorem comesTo_of_misses
    (misses : misses crew.threads file (crew.threads.place (thread clips file)) = true) :
    comesTo world cache file = .error (.probe (.notFound (path file))) := by
  have absent : keyOf world file = none := by
    rw [keyOf, ← sound.dated]
    exact (misses_iff.mp misses).2
  rw [comesTo, absent]

/-- A call that is answered comes to what it would come to alone. -/
theorem comesTo_of_answered (busy : file ∈ crew.pool.busy) {move : Move α}
    {result : Result α (MediaInfo α)}
    (answered : crew.threads.answer? (thread clips file) move = some result) :
    result = comesTo world cache file := by
  obtain ⟨key, calls, rfl⟩ := sound.serves.answer_eq answered
  rw [called_thread world (sound.mem_files busy)] at calls
  rw [comesTo, calls]

theorem ended_close {result : Result α (MediaInfo α)} (comes : result = comesTo world cache file) :
    ∀ entry ∈ (crew.pool.close file result).ended, entry.2 = comesTo world cache entry.1 := by
  intro entry member
  rcases List.mem_append.mp member with earlier | last
  · exact sound.ended entry earlier
  · cases List.mem_singleton.mp last
    exact comes

theorem runs_close (busy : file ∈ crew.pool.busy) (result : Result α (MediaInfo α)) :
    ∃ turns, (crew.pool.close file result).Runs workers clips turns := by
  obtain ⟨turns, runs⟩ := sound.runs
  exact ⟨_, runs.step (.finish busy result)⟩

/-- Where a call has ended, the others are still those for files that are being probed. -/
theorem inside_close {threads : Threads α} {result : Result α (MediaInfo α)}
    (ended : threads.place (thread clips file) = .outside)
    (still : ∀ number, number ≠ thread clips file →
      threads.place number = crew.threads.place number) :
    ∀ number, threads.place number ≠ .outside →
      ∃ other ∈ (crew.pool.close file result).busy, number = thread clips other := by
  intro number inside
  have elsewhere : number ≠ thread clips file := fun here => inside (here ▸ ended)
  rw [still number elsewhere] at inside
  obtain ⟨other, busy, rfl⟩ := sound.inside number inside
  have different : other ≠ file := fun same => elsewhere (same ▸ rfl)
  exact ⟨other, (List.mem_erase_of_ne different).mpr busy, rfl⟩

theorem serves_move (rests : cache.AtRest) (busy : file ∈ crew.pool.busy) {threads : Threads α}
    (moved : Threads.Step crew.threads (.act (thread clips file)
      (nextMove world crew.threads.cache file (crew.threads.place (thread clips file)))) threads) :
    Threads.Serves world cache (called world clips) threads :=
  sound.serves.step rests (consistent_called world clips)
    (fair_nextMove sound.serves sound.dated (sound.mem_files busy)) moved

theorem step (rests : cache.AtRest) (stepped : Step world clips workers crew turn next) :
    next.Sound world cache clips workers := by
  cases stepped with
  | @start pool started =>
      obtain ⟨turns, runs⟩ := sound.runs
      refine ⟨⟨_, runs.step started⟩, sound.serves, sound.dated, ?_, ?_⟩
      · intro number inside
        obtain ⟨file, busy, isThread⟩ := sound.inside number inside
        cases started with
        | start _ _ => exact ⟨file, List.mem_append_left _ busy, isThread⟩
      · cases started with
        | start _ _ => exact sound.ended
  | miss busy misses =>
      refine ⟨sound.runs_close busy _, sound.serves, sound.dated, ?_, ?_⟩
      · exact sound.inside_close (misses_iff.mp misses).1 fun _ _ => rfl
      · exact sound.ended_close (sound.comesTo_of_misses misses).symm
  | @move file threads busy present moved silent =>
      have dated := (changedAt_eq_of_act moved).trans sound.dated
      refine ⟨sound.runs, sound.serves_move rests busy moved, dated, ?_, sound.ended⟩
      intro number inside
      by_cases here : number = thread clips file
      · exact ⟨file, busy, here⟩
      · exact sound.inside number (place_of_act_of_ne moved here ▸ inside)
  | answer busy present moved answered =>
      have dated := (changedAt_eq_of_act moved).trans sound.dated
      refine ⟨sound.runs_close busy _, sound.serves_move rests busy moved, dated, ?_, ?_⟩
      · exact sound.inside_close (place_of_answered moved answered)
          fun number elsewhere => place_of_act_of_ne moved elsewhere
      · exact sound.ended_close (sound.comesTo_of_answered busy answered)

end Sound

theorem sound_of_run (rests : cache.AtRest)
    (ran : Schedule.run (step world clips workers) (ofClips world cache clips) turns = some crew) :
    crew.Sound world cache clips workers :=
  Schedule.invariant_of_run (Sound world cache clips workers)
    (fun _ sound stepped => sound.step rests (step_eq_some_iff.mp stepped)) (.ofClips rests) ran

/-! ## Calls end -/

/-- How many turns a call may still take, at most. -/
def rank : Place α → ℕ
  | .outside => 6
  | .keyed _ => 5
  | .owner _ _ => 4
  | .probing _ _ => 3
  | .probed _ _ _ => 2
  | .dropped _ _ | .waiting _ | .bringing _ _ => 1

omit [Scalar α] in
theorem rank_pos (place : Place α) : 0 < rank place := by
  cases place <;> simp [rank]

/-- Every move of a call that goes on brings it nearer to its end. -/
theorem rank_lt_of_move {threads next : Threads α} {number : ℕ} {move : Move α}
    (moved : Threads.Step threads (.act number move) next)
    (fair : Threads.Fair world (called world clips) threads (.act number move))
    (silent : threads.answer? number move = none) :
    rank (next.place number) < rank (threads.place number) := by
  cases moved with
  | look stands _ => simp [Threads.advance_place_self, stands, rank]
  | join stands _ => simp [Threads.advance_place_self, stands, rank]
  | own stands _ => simp [Threads.advance_place_self, stands, rank]
  | begin stands => simp [Threads.advance_place_self, stands, rank]
  | finish stands => simp [Threads.advance_place_self, stands, rank]
  | drop stands => simp [Threads.advance_place_self, stands, rank]
  | land stands => simp [Threads.answer?, stands] at silent
  | crash stands => simp [Threads.answer?, stands] at silent
  | receive stands ended => simp [Threads.answer?, stands, ended] at silent
  | bring stands dated => cases fair
  | seed stands => cases fair

/-- How many turns a crew may still take, at most. -/
def left (clips : List (Clip α)) (crew : Crew α) : ℕ :=
  7 * crew.pool.waiting.length +
    (crew.pool.busy.map fun file => rank (crew.threads.place (thread clips file))).sum

omit [Scalar α] in
/-- The call for one file, and the others. -/
theorem sum_busy (threads : Threads α) {busy : List String} (member : file ∈ busy) :
    (busy.map fun file => rank (threads.place (thread clips file))).sum =
      rank (threads.place (thread clips file)) +
        ((busy.erase file).map fun file => rank (threads.place (thread clips file))).sum := by
  rw [((List.perm_cons_erase member).map _).sum_eq, List.map_cons, List.sum_cons]

namespace Sound

variable (sound : crew.Sound world cache clips workers)

include sound

theorem nodup_busy : crew.pool.busy.Nodup := by
  have distinct := sound.nodup_filed
  rw [Pool.filed, List.nodup_append, List.nodup_append] at distinct
  exact distinct.1.2.1

/-- The other calls are as far as they were. -/
theorem sum_others {threads : Threads α} {move : Move α}
    (moved : Threads.Step crew.threads (.act (thread clips file) move) threads) :
    ((crew.pool.busy.erase file).map fun file => rank (threads.place (thread clips file))).sum =
      ((crew.pool.busy.erase file).map fun file =>
        rank (crew.threads.place (thread clips file))).sum := by
  refine congrArg List.sum (List.map_congr_left fun other member => ?_)
  obtain ⟨different, isBusy⟩ := (sound.nodup_busy.mem_erase_iff).mp member
  rw [place_of_act_of_ne moved]
  exact fun same => different (thread_inj (sound.mem_files isBusy) same)

/-- The call for a file that waits has not begun. -/
theorem outside_of_waiting (waits : file ∈ crew.pool.waiting) :
    crew.threads.place (thread clips file) = .outside := by
  by_contra inside
  obtain ⟨other, busy, same⟩ := sound.inside _ inside
  have isFile : file ∈ files clips := by
    obtain ⟨_, runs⟩ := sound.runs
    exact runs.once.mem_iff.mp (List.mem_append_left _ (List.mem_append_left _ waits))
  have distinct := sound.nodup_filed
  rw [Pool.filed, List.nodup_append, List.nodup_append] at distinct
  exact distinct.1.2.2 file waits other busy (thread_inj isFile same)

/-- Every turn leaves fewer. -/
theorem left_lt (stepped : Step world clips workers crew turn next) :
    left clips next < left clips crew := by
  cases stepped with
  | start started =>
      cases started with
      | @start file rest waits free =>
          have outside := sound.outside_of_waiting (waits ▸ List.mem_cons_self)
          simp only [left, waits, List.map_append, List.sum_append, List.length_cons, List.map_cons,
            List.map_nil, List.sum_singleton, outside, rank]
          omega
  | @miss file busy misses =>
      simp only [left, Pool.close]
      rw [sum_busy crew.threads busy]
      have := rank_pos (crew.threads.place (thread clips file))
      omega
  | @move file threads busy present moved silent =>
      simp only [left]
      rw [sum_busy crew.threads busy, sum_busy threads busy, sound.sum_others moved]
      have nearer : rank (threads.place (thread clips file)) <
          rank (crew.threads.place (thread clips file)) :=
        rank_lt_of_move moved
          (fair_nextMove sound.serves sound.dated (sound.mem_files busy)) silent
      omega
  | @answer file threads result busy present moved answered =>
      simp only [left, Pool.close]
      rw [sum_busy crew.threads busy, sound.sum_others moved]
      have := rank_pos (crew.threads.place (thread clips file))
      omega

end Sound

/-! ## Going on -/

/-- A call can go on unless it waits for a flight that is under way. -/
theorem exists_step_nextMove (world : Files α) {threads : Threads α} {number : ℕ}
    (present : misses threads file (threads.place number) = false)
    (unbrought : ∀ key info, threads.place number ≠ .bringing key info)
    (ready : ∀ flight, threads.place number = .waiting flight →
      ∃ result, threads.cache.result? flight = some result) :
    ∃ next, Threads.Step threads
      (.act number (nextMove world threads.cache file (threads.place number))) next := by
  cases stands : threads.place number with
  | outside =>
      rw [stands, ← Bool.not_eq_true, misses_iff, not_and] at present
      obtain ⟨key, dated⟩ := Option.ne_none_iff_exists'.mp (present rfl)
      exact ⟨_, .look stands dated⟩
  | keyed key =>
      rw [nextMove]
      cases found : threads.cache.flight? key with
      | none => exact ⟨_, .own stands found⟩
      | some flight => exact ⟨_, .join stands found⟩
  | waiting flight =>
      obtain ⟨result, ended⟩ := ready flight stands
      exact ⟨_, .receive stands ended⟩
  | owner key flight => exact ⟨_, .begin stands⟩
  | probing key flight => exact ⟨_, .finish stands⟩
  | probed key flight result =>
      cases result with
      | ok info => exact ⟨_, .land stands⟩
      | error fault => exact ⟨_, .drop stands⟩
  | dropped flight fault => exact ⟨_, .crash stands⟩
  | bringing key info => exact (unbrought key info stands).elim

namespace Sound

variable (sound : crew.Sound world cache clips workers)

include sound

/-- The call for a file that is being probed can go on unless it waits for a flight. -/
theorem exists_go (busy : file ∈ crew.pool.busy)
    (ready : ∀ flight, crew.threads.place (thread clips file) = .waiting flight →
      ∃ result, crew.threads.cache.result? flight = some result) :
    ∃ next, Step world clips workers crew (.go file) next := by
  cases missed : misses crew.threads file (crew.threads.place (thread clips file)) with
  | true => exact ⟨_, .miss busy missed⟩
  | false =>
      obtain ⟨threads, moved⟩ := exists_step_nextMove world missed
        (sound.serves.unbrought _) ready
      cases answered : crew.threads.answer? (thread clips file)
          (nextMove world crew.threads.cache file (crew.threads.place (thread clips file))) with
      | none => exact ⟨_, .move busy missed moved answered⟩
      | some result => exact ⟨_, .answer busy missed moved answered⟩

/-- Until all files have been probed there is a turn to take. -/
theorem exists_step (notDone : ¬crew.pool.Done) :
    ∃ turn next, Step world clips workers crew turn next := by
  rcases Pool.goes_on workers notDone with ⟨pool, started⟩ | ⟨file, busy, _⟩
  · exact ⟨_, _, .start started⟩
  · by_cases ready : ∀ flight, crew.threads.place (thread clips file) = .waiting flight →
        ∃ result, crew.threads.cache.result? flight = some result
    · exact ⟨_, sound.exists_go busy ready⟩
    · -- the flight is carried by another call, which does not wait
      push Not at ready
      obtain ⟨flight, waits, notEnded⟩ := ready
      have begun := sound.serves.manned.waits _ flight waits
      rcases sound.serves.manned.carried_or_ended begun with ⟨owner, carries⟩ | ⟨result, ended⟩
      · have inside : crew.threads.place owner ≠ .outside := by
          intro outside
          rw [Threads.carries, outside] at carries
          cases carries
        obtain ⟨other, otherBusy, rfl⟩ := sound.inside owner inside
        refine ⟨_, sound.exists_go otherBusy fun number waitsToo => ?_⟩
        rw [Threads.carries, waitsToo] at carries
        cases carries
      · exact (notEnded result ended).elim

/-- However a crew has come to stand, it can come to the end. -/
theorem exists_done (rests : cache.AtRest) :
    ∃ turns final, Schedule.run (Crew.step world clips workers) crew turns = some final ∧
      final.pool.Done := by
  induction turnsLeft : left clips crew using Nat.strong_induction_on generalizing crew with
  | _ n ih =>
      by_cases done : crew.pool.Done
      · exact ⟨[], crew, rfl, done⟩
      · obtain ⟨turn, next, stepped⟩ := sound.exists_step done
        obtain ⟨turns, final, ran, finished⟩ :=
          ih _ (turnsLeft ▸ sound.left_lt stepped) (sound.step rests stepped) rfl
        refine ⟨turn :: turns, final, ?_, finished⟩
        exact Schedule.run_cons_eq_some_iff.mpr ⟨next, step_eq_some_iff.mpr stepped, ran⟩

end Sound

/-- No more turns are taken than may still be. -/
theorem length_le_of_run (rests : cache.AtRest) {start : Crew α}
    (sound : start.Sound world cache clips workers)
    (ran : Schedule.run (step world clips workers) start turns = some crew) :
    turns.length + left clips crew ≤ left clips start := by
  induction turns generalizing start with
  | nil =>
      cases ran
      simp
  | cons turn turns ih =>
      obtain ⟨next, stepped, ranRest⟩ := Schedule.run_cons_eq_some_iff.mp ran
      have taken := step_eq_some_iff.mp stepped
      have fewer := sound.left_lt taken
      have later := ih (sound.step rests taken) ranRest
      rw [List.length_cons]
      omega

end Crew

end Montage.FanOut
