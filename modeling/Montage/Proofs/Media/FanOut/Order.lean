import Montage.Proofs.Machine.Probing
import Montage.Proofs.Media.FanOut.Crew

/-!
# The order of probes

Probing the files of clips one behind the other is one order among many.  Every probe leaves the
cache at rest and changes nothing for the probes behind it, so all orders in which workers may
take their turns come to the same map, or to a fault of some file each.
-/

namespace Montage

variable {α : Type} [Scalar α]

namespace ProbeCache

variable {cache : ProbeCache α} {key other : ProbeKey α} {result : Result α (MediaInfo α)}
  {world : Files α} {flight : ℕ}

/-! ## Probes of one's own -/

omit [Scalar α] in
theorem flights_launch_set (cache : ProbeCache α) (result : Result α (MediaInfo α)) :
    (cache.flights ++ [none]).set cache.flights.length (some result) =
      cache.flights ++ [some result] := by
  simp

theorem AtRest.settle (rests : cache.AtRest) (key : ProbeKey α)
    (result : Result α (MediaInfo α)) :
    ((cache.launch key none).settle key cache.flights.length result).AtRest where
  ended := by
    intro flight underWay
    rw [UnderWay, flights_settle, flights_launch, flights_launch_set] at underWay
    rcases lt_trichotomy flight cache.flights.length with before | rfl | behind
    · rw [List.getElem?_append_left before] at underWay
      exact rests.ended flight underWay
    · simp at underWay
    · have outside : (cache.flights ++ [some result])[flight]? = none := by simpa using behind
      cases outside.symm.trans underWay
  stored := by
    intro entry member
    rw [flights_settle, flights_launch, flights_launch_set, List.length_append]
    rcases mem_launch.mp (mem_settle.mp member).1 with ⟨earlier, _⟩ | rfl
    · exact Nat.lt_succ_of_lt (rests.stored entry earlier)
    · exact Nat.lt_succ_self _
  one := rests.one.launch.settle

/-- Behind a probe of one's own, calls come to what they came to before. -/
theorem answer_settle (rests : cache.AtRest) (free : cache.flight? key = none)
    (consistent : other.path = key.path → other = key) :
    answer world ((cache.launch key none).settle key cache.flights.length
      (Probe.file world (.ofText key.path))) other = answer world cache other := by
  generalize probed : Probe.file world (.ofText key.path) = result
  have after := rests.settle key result
  have results : ∀ {flight ending}, cache.result? flight = some ending →
      ((cache.launch key none).settle key cache.flights.length result).result? flight =
        some ending := by
    intro flight ending ended
    rw [result?_eq_some_iff] at ended ⊢
    have begun := (List.getElem?_eq_some_iff.mp ended).choose
    rw [flights_settle, flights_launch, flights_launch_set, List.getElem?_append_left begun, ended]
  cases found : ((cache.launch key none).settle key cache.flights.length result).flight? other with
  | some flight =>
      obtain ⟨under, member, same⟩ := exists_mem_of_flight? found
      rcases mem_launch.mp (mem_settle.mp member).1 with ⟨earlier, _⟩ | new
      · obtain ⟨ending, ended⟩ := rests.exists_result earlier
        rw [answer_of_stored found (results ended),
          answer_of_stored (rests.one.flight?_eq earlier same) ended]
      · cases new
        cases consistent (ProbeKey.path_eq_of_same same).symm
        have ended : ((cache.launch key none).settle key cache.flights.length result).result?
            cache.flights.length = some result := by
          rw [result?_eq_some_iff, flights_settle, flights_launch, flights_launch_set]
          simp
        rw [answer_of_stored found ended, answer_of_free free, probed]
  | none =>
      rw [answer_of_free found]
      cases foundBefore : cache.flight? other with
      | none => rw [answer_of_free foundBefore]
      | some flight =>
          obtain ⟨under, member, same⟩ := exists_mem_of_flight? foundBefore
          -- nothing that was found before is replaced or dropped
          have elsewhere : under.path ≠ key.path := by
            intro here
            cases consistent ((ProbeKey.path_eq_of_same same).symm.trans here)
            cases free.symm.trans foundBefore
          have unlike : under.same key = false :=
            Bool.eq_false_iff.mpr fun here => elsewhere (ProbeKey.path_eq_of_same here)
          have stays : (under, flight) ∈
              ((cache.launch key none).settle key cache.flights.length result).entries :=
            mem_settle.mpr ⟨mem_launch.mpr (.inl ⟨member, elsewhere⟩), fun _ => unlike⟩
          cases found.symm.trans (after.one.flight?_eq stays same)

end ProbeCache

namespace FanOut

open ProbeCache (answer)

variable {session : Session α} {world : Files α} {clips : List (Clip α)} {start : ProbeCache α}
  {file other : String}

/-! ## One probe behind the other -/

/-- The key of a file, where it is. -/
theorem keyOf_eq (world : Files α) (file : String) :
    keyOf world file =
      (world.entry? (Path.ofText file)).map fun entry => ⟨Crew.path file, entry.time⟩ := by
  rw [keyOf, Files.changedAt, Crew.path, Path.ofText_resolve, Files.entry?_resolve, Option.map_map]
  rfl

/-- A probe on a cache at rest comes to what a call alone comes to, leaves the cache at rest, and
changes nothing for other calls. -/
theorem outcome_probe_eq (rests : session.cache.AtRest) (file : String) :
    ∃ cache reads, (Program.probe (.ofText file)).outcome session =
        (comesTo session.files session.cache file, { session with cache, reads }) ∧
      cache.AtRest ∧
      ∀ other, comesTo session.files cache other = comesTo session.files session.cache other := by
  cases found : session.files.entry? (Path.ofText file) with
  | none =>
      have missing : keyOf session.files file = none := by rw [keyOf_eq, found]; rfl
      refine ⟨session.cache, session.reads, ?_, rests, fun _ => rfl⟩
      rw [Program.outcome_probe_of_missing session found, comesTo, missing]
      rfl
  | some entry =>
      have dated : keyOf session.files file = some ⟨Crew.path file, entry.time⟩ := by
        rw [keyOf_eq, found]
        rfl
      generalize isKey : (⟨Crew.path file, entry.time⟩ : ProbeKey α) = key at dated
      have looked : (Program.probeKey (.ofText file)).outcome session =
          (.ok ⟨Crew.path file, entry.time⟩, session) :=
        Program.outcome_probeKey_of_found ((session.files.entry?_resolve file).trans found)
      rw [isKey] at looked
      have comes : comesTo session.files session.cache file =
          answer session.files session.cache key := by
        rw [comesTo, dated]
      rw [comes, Program.probe, Program.outcome_bind_of_ok looked,
        Program.outcome_bind_of_ok Program.outcome_request]
      cases stored : session.cache.flight? key with
      | some flight =>
          obtain ⟨under, member, _⟩ := ProbeCache.exists_mem_of_flight? stored
          obtain ⟨result, ended⟩ := rests.exists_result member
          rw [ProbeCache.request_joins_iff.mpr ⟨stored, rfl⟩,
            ProbeCache.answer_of_stored stored ended]
          exact ⟨session.cache, session.reads, Program.outcome_await ended, rests, fun _ => rfl⟩
      | none =>
          rw [ProbeCache.request_owns_iff.mpr ⟨stored, rfl, rfl⟩,
            ProbeCache.answer_of_free stored]
          have isThere : session.files.holds (.ofText key.path) = true := by
            rw [← isKey, Files.holds, Crew.path, Path.ofText_resolve, Files.entry?_resolve, found]
            rfl
          refine ⟨_, _, Program.outcome_carryOut
            { session with cache := session.cache.launch key none } key
            session.cache.flights.length isThere, rests.settle key _, fun other => ?_⟩
          rw [comesTo, comesTo]
          cases datedOther : keyOf session.files other with
          | none => rfl
          | some otherKey =>
              exact ProbeCache.answer_settle rests stored (eq_of_keyOf datedOther dated)

/-- Probes one behind the other come to what calls alone come to. -/
theorem outcome_probes (names : List String) (rests : session.cache.AtRest) :
    ∃ behind, (names.mapM fun file => do
        return (file, ← (Program.probe (.ofText file)).attempt) : Program α _).outcome session =
      (.ok (names.map fun file => (file, comesTo session.files session.cache file)), behind) := by
  induction names generalizing session with
  | nil => exact ⟨session, rfl⟩
  | cons file names ih =>
      obtain ⟨cache, reads, probed, restsBehind, same⟩ := outcome_probe_eq rests file
      obtain ⟨behind, others⟩ := @ih { session with cache, reads } restsBehind
      have tried : (Program.probe (.ofText file)).attempt.outcome session =
          (.ok (comesTo session.files session.cache file), { session with cache, reads }) :=
        congrArg (fun outcome => (Except.ok outcome.1, outcome.2)) probed
      refine ⟨behind, ?_⟩
      simp only [List.mapM_cons, bind_assoc, pure_bind]
      rw [Program.outcome_bind_of_ok tried, Program.outcome_bind_of_ok others, List.map_cons,
        funext same]
      rfl

omit [Scalar α] in
/-- Printing lines has no fault. -/
theorem outcome_printLines (line : String → String) (names : List String) (session : Session α) :
    ∃ behind, (names.forM fun file => Program.printLine (line file) : Program α Unit).outcome
      session = (.ok (), behind) := by
  induction names generalizing session with
  | nil => exact ⟨session, rfl⟩
  | cons file names ih =>
      exact ih { session with output := session.output ++ (line file ++ "\n") }

/-- The program that probes one file behind the other gathers what calls alone come to. -/
theorem outcome_probeClips_eq (rests : session.cache.AtRest) (clips : List (Clip α))
    (quiet : Bool) :
    ((Program.probeClips clips quiet).outcome session).1 =
      result clips
        ((files clips).map fun file => (file, comesTo session.files session.cache file)) := by
  obtain ⟨behind, probed⟩ := outcome_probes (files clips) rests
  rw [Program.probeClips, Program.outcome_bind_of_ok probed]
  cases quiet with
  | true => rfl
  | false =>
      obtain ⟨after, printed⟩ := outcome_printLines (fun file => s!"  PROBE  {file}")
        (reported ((files clips).map fun file =>
          (file, comesTo session.files session.cache file))) behind
      exact congrArg Prod.fst (Program.outcome_bind_of_ok printed)

/-! ## All orders -/

/-- What a pool has come to, whatever its calls come to. -/
structure Pool.FansOut (workers : ℤ) (clips : List (Clip α)) (turns : List (FanOut.Turn α))
    (pool : Pool α) : Prop where
  runs : pool.Runs workers clips turns
  few : turns.length ≤ 2 * (files clips).length
  /-- Until all files have been probed, the next one is taken or any call under way may end. -/
  onward : ¬pool.Done → (∃ next, Pool.Step workers pool .start next) ∨
    ∃ file ∈ pool.busy, ∀ result, Pool.Step workers pool (.finish file result)
      (pool.close file result)
  gathers : pool.Done → Gathers clips pool.ended
  /-- Where calls come to the same, any order and any number of workers does as well. -/
  ordered : pool.Done → ∀ otherWorkers otherTurns other,
    Schedule.run (Pool.step otherWorkers) (Pool.ofClips clips) otherTurns = some other →
      other.Done → (∀ file ∈ files clips, found? pool.ended file = found? other.ended file) →
        (result clips pool.ended).toOption = (result clips other.ended).toOption

/-- What a crew has come to once all files have been probed. -/
structure Crew.Answers (session : Session α) (clips : List (Clip α)) (crew : Crew α) : Prop where
  gathers : Gathers clips crew.pool.ended
  /-- Every call has come to what it comes to alone. -/
  alone : ∀ entry ∈ crew.pool.ended,
    entry.2 = ((Program.probe (.ofText entry.1)).outcome session).1
  /-- Calls one behind the other make the same map, or are at fault as well. -/
  same : ∀ quiet, (result clips crew.pool.ended).toOption =
    ((Program.probeClips clips quiet).outcome session).1.toOption
  rests : crew.threads.cache.AtRest

/-- What a crew has come to that began with the cache of a session. -/
structure Crew.FansOut (session : Session α) (workers : ℤ) (clips : List (Clip α))
    (turns : List Crew.Turn) (crew : Crew α) : Prop where
  few : turns.length ≤ 7 * (files clips).length
  onward : ∃ rest final,
    Schedule.run (Crew.step session.files clips workers) crew rest = some final ∧ final.pool.Done
  answers : crew.pool.Done → crew.Answers session clips

omit [Scalar α] in
theorem Pool.fansOut_of_run {workers : ℤ} {turns : List (FanOut.Turn α)} {pool : Pool α}
    (ran : Schedule.run (Pool.step workers) (Pool.ofClips clips) turns = some pool) :
    pool.FansOut workers clips turns := by
  have runs := Pool.runs_of_run ran
  refine ⟨runs, ?_, Pool.goes_on workers, runs.gathers, ?_⟩
  · have := runs.length_eq
    omega
  · intro done otherWorkers otherTurns other ranToo doneToo agree
    have once := (runs.gathers done).once
    have onceToo := ((Pool.runs_of_run ranToo).gathers doneToo).once
    exact toOption_result_eq once onceToo agree

namespace Crew

variable {crew : Crew α} {workers : ℤ} {turns : List Crew.Turn}

/-- What calls alone come to, for every file once. -/
theorem perm_alone (world : Files α) (cache : ProbeCache α) (clips : List (Clip α)) :
    (((files clips).map fun file => (file, comesTo world cache file)).map Prod.fst).Perm
      (files clips) := by
  rw [List.map_map]
  exact .of_eq (List.map_id _)

theorem found?_alone (world : Files α) (cache : ProbeCache α) (member : file ∈ files clips) :
    found? ((files clips).map fun file => (file, comesTo world cache file)) file =
      (comesTo world cache file).toOption := by
  have listed : (file, comesTo world cache file) ∈
      (files clips).map fun file => (file, comesTo world cache file) :=
    List.mem_map_of_mem member
  rw [found?, lookup_of_mem ((perm_alone world cache clips).nodup_iff.mpr (nodup_files clips)) listed]
  rfl

theorem answers_of_sound (rests : session.cache.AtRest)
    (sound : crew.Sound session.files session.cache clips workers) (done : crew.pool.Done) :
    crew.Answers session clips := by
  obtain ⟨_, runs⟩ := sound.runs
  have gathers := runs.gathers done
  refine ⟨gathers, ?_, ?_, ?_⟩
  · intro entry member
    obtain ⟨cache, reads, probed, _⟩ := outcome_probe_eq rests entry.1
    rw [probed]
    exact sound.ended entry member
  · intro quiet
    rw [outcome_probeClips_eq rests]
    refine toOption_result_eq gathers.once (perm_alone _ _ clips) fun file member => ?_
    obtain ⟨⟨name, outcome⟩, isEnded, rfl⟩ := List.mem_map.mp (gathers.once.mem_iff.mpr member)
    rw [found?_alone _ _ member, found?,
      lookup_of_mem (gathers.once.nodup_iff.mpr (nodup_files clips)) isEnded,
      ← sound.ended _ isEnded]
    rfl
  · refine (sound.serves.atRest_of_outside rests (consistent_called _ clips) fun number => ?_).1
    by_contra inside
    obtain ⟨file, busy, _⟩ := sound.inside number inside
    rw [done.2] at busy
    cases busy

theorem fansOut_of_run (rests : session.cache.AtRest)
    (ran : Schedule.run (step session.files clips workers)
      (ofClips session.files session.cache clips) turns = some crew) :
    crew.FansOut session workers clips turns := by
  have sound := sound_of_run rests ran
  refine ⟨?_, sound.exists_done rests, answers_of_sound rests sound⟩
  have length := length_le_of_run rests (.ofClips rests) ran
  have atStart : left clips (ofClips session.files session.cache clips) =
      7 * (files clips).length := rfl
  omega

end Crew

/-- Whatever the number of workers and the order of their turns, and whatever the calls come to,
every file is called for once, and all calls together make one map, or the first of them that has
failed is at fault.  With a cache at rest the calls come to what each comes to alone, and every
cache is at rest that requests, seeds and changes of files have left when nobody uses it. -/
theorem fansOut (clips : List (Clip α)) (workers : ℤ) :
    (∀ turns pool, Schedule.run (Pool.step workers) (Pool.ofClips clips) turns = some pool →
      pool.FansOut workers clips turns) ∧
    (∀ session : Session α, session.cache.AtRest → ∀ turns crew,
      Schedule.run (Crew.step session.files clips workers)
        (Crew.ofClips session.files session.cache clips) turns = some crew →
      crew.FansOut session workers clips turns) ∧
    ∀ changedAt turns (threads : ProbeCache.Threads α),
      ProbeCache.Threads.after changedAt turns = some threads →
      (∀ thread, threads.place thread = .outside) → threads.cache.AtRest :=
  ⟨fun _ _ => Pool.fansOut_of_run, fun _ rests _ _ => Crew.fansOut_of_run rests,
    fun changedAt _ _ ran => (ProbeCache.Threads.manned_of_run
      (ProbeCache.Threads.manned_idle changedAt) ran).atRest⟩

/-- Two pictures in three clips, one of them by two spellings of its path. -/
def linkedClips : List (Clip ℚ) :=
  [.plain "A" "/m/a.png", .plain "B" "/m/b.png", .plain "C" "/m/x/../a.png"]

/-- A session with both pictures. -/
def linkedSession : Session ℚ :=
  .ofFiles [("/m/a.png", { FileEntry.blank with media := some (.picture 4 2) }),
    ("/m/b.png", { FileEntry.blank with media := some (.picture 3 3) })]

/-- Turns of two workers, in which the call for the second spelling waits for that for the
first. -/
def linkedTurns : List Crew.Turn :=
  [.start, .start, .go "/m/a.png", .go "/m/b.png", .go "/m/b.png", .go "/m/b.png", .go "/m/b.png",
    .go "/m/b.png", .start, .go "/m/x/../a.png", .go "/m/a.png", .go "/m/x/../a.png",
    .go "/m/a.png", .go "/m/a.png", .go "/m/a.png", .go "/m/x/../a.png"]

theorem linkedTurns_done :
    ((Schedule.run (Crew.step linkedSession.files linkedClips 2)
      (Crew.ofClips linkedSession.files linkedSession.cache linkedClips) linkedTurns).map
        fun crew => (crew.pool.waiting, crew.pool.busy, crew.pool.ended.map Prod.fst)) =
      some ([], [], ["/m/b.png", "/m/a.png", "/m/x/../a.png"]) := by
  decide +kernel

/-- The calls of one worker, of which the first fails. -/
def failingTurns (fault : Fault ℚ) (info : MediaInfo ℚ) : List (Turn ℚ) :=
  [.start, .finish "/m/a.png" (.error fault), .start, .finish "/m/b.png" (.ok info), .start,
    .finish "/m/x/../a.png" (.ok info)]

/-- Both spellings are called for, and the calls behind one that fails are made as well. -/
theorem linkedTurns_fansOut :
    (∃ crew, Schedule.run (Crew.step linkedSession.files linkedClips 2)
        (Crew.ofClips linkedSession.files linkedSession.cache linkedClips) linkedTurns = some crew ∧
      crew.pool.Done ∧ crew.FansOut linkedSession 2 linkedClips linkedTurns) ∧
    ∀ fault info, ∃ pool,
      Schedule.run (Pool.step 1) (Pool.ofClips linkedClips) (failingTurns fault info) = some pool ∧
        pool.Done ∧ pool.FansOut 1 linkedClips (failingTurns fault info) := by
  constructor
  · obtain ⟨crew, ran, finished⟩ := Option.map_eq_some_iff.mp linkedTurns_done
    rw [Prod.mk.injEq, Prod.mk.injEq] at finished
    have rests : linkedSession.cache.AtRest := (fansOut linkedClips 2).2.2 (fun _ => none) []
      (.idle fun _ => none) rfl fun _ => rfl
    refine ⟨crew, ran, ⟨finished.1, finished.2.1⟩, ?_⟩
    exact (fansOut linkedClips 2).2.1 linkedSession rests linkedTurns crew ran
  · intro fault info
    have ran : Schedule.run (Pool.step 1) (Pool.ofClips linkedClips) (failingTurns fault info) =
        some ⟨[], [], [("/m/a.png", .error fault), ("/m/b.png", .ok info),
          ("/m/x/../a.png", .ok info)]⟩ := by
      rfl
    exact ⟨_, ran, ⟨rfl, rfl⟩, (fansOut linkedClips 1).1 _ _ ran⟩

end FanOut

end Montage
