import Montage.Media.Probe
import Montage.Proofs.Media.Cache.Results

/-!
# What calls are served

Threads that call for sources while the files stay as they are all get what the cache knew from
the start, or else what a probe of the file comes to.  A call that waits for the flight of another
one gets the same as if it had probed the file itself, and a flight that fails is no loss, because
the next probe fails as well.
-/

namespace Montage.ProbeCache

variable {α : Type} [Scalar α]

/-- No flight is under way, and the entries are sound. -/
structure AtRest (cache : ProbeCache α) : Prop where
  ended : ∀ flight, ¬cache.UnderWay flight
  stored : ∀ entry ∈ cache.entries, entry.2 < cache.flights.length
  one : cache.OnePerPath

/-- What a call for a key comes to: the result that is stored, or that of a probe. -/
def answer (world : Files α) (cache : ProbeCache α) (key : ProbeKey α) : Result α (MediaInfo α) :=
  ((cache.flight? key).bind cache.result?).getD (Probe.file world (.ofText key.path))

variable {world : Files α} {cache : ProbeCache α} {key : ProbeKey α} {flight : ℕ}
  {result : Result α (MediaInfo α)}

theorem answer_of_free (free : cache.flight? key = none) :
    answer world cache key = Probe.file world (.ofText key.path) := by
  rw [answer, free]
  rfl

theorem answer_of_stored (stored : cache.flight? key = some flight)
    (ended : cache.result? flight = some result) : answer world cache key = result := by
  rw [answer, stored, Option.bind_some, ended]
  rfl

/-- An entry that is stored under a key is found. -/
theorem OnePerPath.flight?_eq (one : cache.OnePerPath) {under : ProbeKey α}
    (member : (under, flight) ∈ cache.entries) (same : under.same key = true) :
    cache.flight? key = some flight := by
  cases found : cache.entries.find? fun entry => entry.1.same key with
  | none =>
      rw [List.find?_eq_none] at found
      exact absurd same (found _ member)
  | some entry =>
      have sameToo := List.find?_some found
      have samePath : entry.1.path = under.path :=
        (ProbeKey.path_eq_of_same sameToo).trans (ProbeKey.path_eq_of_same same).symm
      rw [flight?, found, one.eq (List.mem_of_find?_eq_some found) member samePath]
      rfl

omit [Scalar α] in
/-- Whatever is stored has a result. -/
theorem AtRest.exists_result (rests : cache.AtRest) {entry : ProbeKey α × ℕ}
    (member : entry ∈ cache.entries) : ∃ result, cache.result? entry.2 = some result := by
  have begun := rests.stored entry member
  cases ending : cache.flights[entry.2] with
  | none =>
      refine (rests.ended entry.2 ?_).elim
      rw [UnderWay, List.getElem?_eq_getElem begun, ending]
  | some result => exact ⟨result, by rw [result?_eq_some_iff, List.getElem?_eq_getElem begun, ending]⟩

namespace Threads

variable {threads next final : Threads α} {start : ProbeCache α} {turn : Turn α}
  {called : ℕ → Option (ProbeKey α)} {thread : ℕ}

omit [Scalar α] in
/-- A cache that nobody uses is at rest. -/
theorem Manned.atRest (manned : threads.Manned)
    (outside : ∀ thread, threads.place thread = .outside) : threads.cache.AtRest := by
  refine ⟨fun flight underWay => ?_, manned.stored, manned.one⟩
  obtain ⟨thread, holds⟩ := (manned.sound.carried flight).mp underWay
  rw [carries, outside thread] at holds
  cases holds

/-! ## Promises -/

/-- A flight has begun and comes to what a call for the key is to get. -/
structure Promised (world : Files α) (start : ProbeCache α) (threads : Threads α) (flight : ℕ)
    (key : ProbeKey α) : Prop where
  begun : flight < threads.cache.flights.length
  lands : ∀ result, threads.Landed flight result → result = answer world start key
  flown : ∀ thread other, (threads.place thread).flies? = some (other, flight) → other = key

/-- A turn of a call.  It looks up the key that it is for, and probes the file as it is. -/
def Fair (world : Files α) (called : ℕ → Option (ProbeKey α)) (threads : Threads α) :
    Turn α → Prop
  | .act thread (.look path) => threads.key? path = called thread
  | .act thread (.finish result) => ∀ key flight, threads.place thread = .probing key flight →
      result = Probe.file world (.ofText key.path)
  | .act _ (.bring _ _) | .act _ .seed | .change _ _ => False
  | .act _ _ => True

/-- Threads that call for sources, from a cache on that was at rest. -/
structure Serves (world : Files α) (start : ProbeCache α) (called : ℕ → Option (ProbeKey α))
    (threads : Threads α) : Prop where
  manned : threads.Manned
  /-- What was known at the start is known still. -/
  ended : ∀ flight result, start.result? flight = some result →
    threads.cache.result? flight = some result
  kept : ∀ entry ∈ start.entries, ∀ thread key, called thread = some key →
    entry.1.same key = true → entry ∈ threads.cache.entries
  /-- What is stored was stored at the start, or by a call. -/
  stored : ∀ entry ∈ threads.cache.entries, entry ∈ start.entries ∨
    (∃ thread, called thread = some entry.1) ∧ Promised world start threads entry.2 entry.1
  known : ∀ thread key, (threads.place thread).key? = some key → called thread = some key
  unbrought : ∀ thread key info, threads.place thread ≠ .bringing key info
  waits : ∀ thread flight, threads.place thread = .waiting flight →
    ∃ key, called thread = some key ∧ Promised world start threads flight key
  flies : ∀ thread key flight, (threads.place thread).flies? = some (key, flight) →
    start.flight? key = none ∧ Promised world start threads flight key
  reports : ∀ thread flight result, (threads.place thread).reports? = some (flight, result) →
    ∃ key, called thread = some key ∧ result = answer world start key

/-- Threads outside of all calls serve from any cache at rest. -/
theorem serves_of_atRest (rests : start.AtRest) (changedAt : String → Option α) :
    Serves world start called ⟨changedAt, start, fun _ => .outside⟩ where
  manned := by
    refine ⟨⟨fun flight => ?_, nofun⟩, nofun, rests.stored, rests.one⟩
    exact ⟨fun underWay => (rests.ended flight underWay).elim, nofun⟩
  ended _ _ ended := ended
  kept _ member _ _ _ _ := member
  stored _ member := .inl member
  known := nofun
  unbrought := nofun
  waits := nofun
  flies := nofun
  reports := nofun

/-! ## What a turn keeps -/

/-- The flight of a thread has been begun by the turn, or was its own before. -/
theorem flies?_of_step {other : ProbeKey α} (stepped : Step threads turn next)
    (flies : (next.place thread).flies? = some (other, flight)) :
    (threads.place thread).flies? = some (other, flight) ∨
      turn = .act thread .own ∧ threads.place thread = .keyed other ∧
        threads.cache.flight? other = none ∧ flight = threads.cache.flights.length := by
  rcases stepped.place_eq_or thread with stays | ⟨move, rfl⟩
  · exact .inl (stays ▸ flies)
  · cases stepped with
    | own stands free =>
        rw [advance_place_self] at flies
        cases flies
        exact .inr ⟨rfl, stands, free, rfl⟩
    | begin stands =>
        rw [advance_place_self] at flies
        exact .inl (stands ▸ flies)
    | finish stands =>
        rw [advance_place_self] at flies
        exact .inl (stands ▸ flies)
    | _ =>
        rw [advance_place_self] at flies
        cases flies

namespace Serves

variable (serves : Serves world start called threads)

include serves

/-- What a probe under way comes to is what a call for its key is to get. -/
theorem finish_eq (fair : Fair world called threads (.act thread (.finish result)))
    (stands : threads.place thread = .probing key flight) : result = answer world start key := by
  have owned := serves.flies thread key flight (by rw [stands]; rfl)
  rw [fair key flight stands, answer_of_free owned.1]

/-- Turns of calls keep every promise. -/
theorem promised_step (fair : Fair world called threads turn) (stepped : Step threads turn next)
    (promised : Promised world start threads flight key) :
    Promised world start next flight key where
  begun := promised.begun.trans_le (accounts_of_step stepped).length_le
  lands := by
    rintro result (ended | ⟨thread, reports⟩)
    · exact promised.lands result (landed_of_ended stepped promised.begun ended)
    · rcases reports_step stepped reports with reported | ⟨prober, under, stands, rfl⟩
      · exact promised.lands result (.inr ⟨thread, reported⟩)
      · rw [serves.finish_eq fair stands, promised.flown prober under (by rw [stands]; rfl)]
  flown := by
    intro thread other flies
    rcases flies?_of_step stepped flies with flew | ⟨_, _, _, isNew⟩
    · exact promised.flown thread other flew
    · exact absurd promised.begun (isNew ▸ Nat.lt_irrefl _)

/-- A flight of one's own is promised to its key. -/
theorem promised_own (stepped : Step threads (.act thread .own) next)
    (stands : threads.place thread = .keyed key) :
    Promised world start next threads.cache.flights.length key := by
  have manned := serves.manned.step stepped
  cases stepped with
  | own standsToo free =>
      cases stands.symm.trans standsToo
      -- the thread is the only one that carries the new flight
      have alone : ∀ other,
          ((threads.advance thread (.owner key threads.cache.flights.length)
            (threads.cache.launch key none)).place other).carries? =
              some threads.cache.flights.length → other = thread := by
        intro other carries
        refine manned.sound.once other thread _ carries ?_
        rw [carries_advance, Schedule.move_self]
        rfl
      refine ⟨by simp [advance], ?_, ?_⟩
      · rintro result (ended | ⟨other, reports⟩)
        · simp [advance] at ended
        · cases alone other (Place.carries?_of_reports? reports)
          rw [advance_place_self] at reports
          cases reports
      · intro other under flies
        cases alone other (Place.carries?_of_flies? flies)
        rw [advance_place_self] at flies
        cases flies
        rfl

/-- A key that a call finds nothing under was not stored at the start. -/
theorem free_of_free (calls : called thread = some key)
    (free : threads.cache.flight? key = none) : start.flight? key = none := by
  cases found : start.flight? key with
  | none => rfl
  | some flight =>
      obtain ⟨under, member, same⟩ := exists_mem_of_flight? found
      have kept := serves.kept _ member thread key calls same
      rw [serves.manned.one.flight?_eq kept same] at free
      cases free

/-- Every call that ends gets what is stored from the start, or what a probe comes to. -/
theorem answer_eq {move : Move α} (answered : threads.answer? thread move = some result) :
    ∃ key, called thread = some key ∧ result = answer world start key := by
  cases move with
  | publish =>
      simp only [answer?] at answered
      split at answered
      · rename_i stands
        cases answered
        exact serves.reports thread _ _ (by rw [stands]; rfl)
      · rename_i stands
        cases answered
        exact serves.reports thread _ _ (by rw [stands]; rfl)
      · cases answered
  | receive =>
      simp only [answer?] at answered
      split at answered
      · rename_i flight stands
        obtain ⟨key, calls, promised⟩ := serves.waits thread flight stands
        exact ⟨key, calls, promised.lands result (.inl (result?_eq_some_iff.mp answered))⟩
      · cases answered
  | _ => cases answered

end Serves

/-- Calls for the same path are for the same key. -/
def Consistent (called : ℕ → Option (ProbeKey α)) : Prop :=
  ∀ first second key other, called first = some key → called second = some other →
    key.path = other.path → key = other

namespace Serves

variable (serves : Serves world start called threads) (rests : start.AtRest)
  (consistent : Consistent called)

include serves rests

/-- A flight that was stored at the start is promised to the keys that it is found under. -/
theorem promised_of_start {under : ProbeKey α} (member : (under, flight) ∈ start.entries)
    (same : under.same key = true) : Promised world start threads flight key := by
  obtain ⟨result, isResult⟩ := rests.exists_result member
  have ended := result?_eq_some_iff.mp (serves.ended flight result isResult)
  refine ⟨(List.getElem?_eq_some_iff.mp ended).choose, ?_, ?_⟩
  · intro other landed
    rw [answer_of_stored (rests.one.flight?_eq member same) isResult]
    exact serves.manned.landed_unique landed (.inl ended)
  · intro thread other flies
    have underWay := (serves.manned.sound.carried flight).mpr
      ⟨thread, Place.carries?_of_flies? flies⟩
    cases ended.symm.trans underWay

include consistent

/-- What a call finds stored under its key is promised to it. -/
theorem promised_of_flight? (calls : called thread = some key)
    (found : threads.cache.flight? key = some flight) :
    Promised world start threads flight key := by
  obtain ⟨under, member, same⟩ := exists_mem_of_flight? found
  rcases serves.stored _ member with atStart | ⟨⟨caller, calledFor⟩, promised⟩
  · exact serves.promised_of_start rests atStart same
  · have samePath := ProbeKey.path_eq_of_same same
    rwa [← consistent caller thread under key calledFor calls samePath]

theorem step (fair : Fair world called threads turn) (stepped : Step threads turn next) :
    Serves world start called next where
  manned := serves.manned.step stepped
  ended flight result ended := by
    have known := result?_eq_some_iff.mp (serves.ended flight result ended)
    exact result?_eq_some_iff.mpr ((accounts_of_step stepped).ended serves.manned.sound known)
  kept entry member caller key calls same := by
    have stays := serves.kept entry member caller key calls same
    have samePath := ProbeKey.path_eq_of_same same
    cases stepped with
    | @own thread other stands free =>
        refine mem_launch.mpr (.inl ⟨stays, fun pathToo => ?_⟩)
        have calledFor := serves.known thread other (by rw [stands]; rfl)
        cases consistent caller thread key other calls calledFor (samePath.symm.trans pathToo)
        rw [serves.manned.one.flight?_eq stays same] at free
        cases free
    | @drop thread flight other fault stands =>
        refine mem_discard.mpr ⟨stays, Bool.eq_false_iff.mpr fun sameToo => ?_⟩
        have free := (serves.flies thread other flight (by rw [stands]; rfl)).1
        rw [rests.one.flight?_eq member sameToo] at free
        cases free
    | seed stands => cases fair
    | _ => exact stays
  stored entry member := by
    have onward : entry ∈ threads.cache.entries → entry ∈ start.entries ∨
        (∃ thread, called thread = some entry.1) ∧ Promised world start next entry.2 entry.1 :=
      fun stored => (serves.stored entry stored).imp_right fun ⟨calls, promised⟩ =>
        ⟨calls, serves.promised_step fair stepped promised⟩
    cases stepped with
    | @own thread key stands free =>
        rcases mem_launch.mp member with ⟨earlier, _⟩ | rfl
        · exact onward earlier
        · have calledFor := serves.known thread key (by rw [stands]; rfl)
          exact .inr ⟨⟨thread, calledFor⟩, serves.promised_own (.own stands free) stands⟩
    | drop stands => exact onward (mem_discard.mp member).1
    | seed stands => cases fair
    | _ => exact onward member
  known thread key known := by
    rcases stepped.place_eq_or thread with stays | ⟨move, rfl⟩
    · exact serves.known thread key (stays ▸ known)
    · cases stepped with
      | look _ dated =>
          rw [advance_place_self] at known
          cases known
          exact fair ▸ dated
      | own stands _ =>
          rw [advance_place_self] at known
          exact serves.known thread key (stands ▸ known)
      | begin stands =>
          rw [advance_place_self] at known
          exact serves.known thread key (stands ▸ known)
      | finish stands =>
          rw [advance_place_self] at known
          exact serves.known thread key (stands ▸ known)
      | bring _ _ => cases fair
      | _ =>
          rw [advance_place_self] at known
          cases known
  unbrought thread key info brings := by
    rcases stepped.place_eq_or thread with stays | ⟨move, rfl⟩
    · exact serves.unbrought thread key info (stays ▸ brings)
    · cases stepped with
      | bring _ _ => cases fair
      | _ =>
          rw [advance_place_self] at brings
          cases brings
  waits thread flight waits := by
    rcases stepped.place_eq_or thread with stays | ⟨move, rfl⟩
    · obtain ⟨key, calls, promised⟩ := serves.waits thread flight (stays ▸ waits)
      exact ⟨key, calls, serves.promised_step fair stepped promised⟩
    · cases stepped with
      | @join _ _ key stands found =>
          rw [advance_place_self] at waits
          cases waits
          have calls := serves.known thread key (by rw [stands]; rfl)
          have promised := serves.promised_of_flight? rests consistent calls found
          exact ⟨key, calls, serves.promised_step fair (.join stands found) promised⟩
      | _ =>
          rw [advance_place_self] at waits
          cases waits
  flies thread key flight flies := by
    rcases flies?_of_step stepped flies with flew | ⟨rfl, stands, free, rfl⟩
    · obtain ⟨free, promised⟩ := serves.flies thread key flight flew
      exact ⟨free, serves.promised_step fair stepped promised⟩
    · have calls := serves.known thread key (by rw [stands]; rfl)
      exact ⟨serves.free_of_free calls free, serves.promised_own stepped stands⟩
  reports thread flight result reports := by
    rcases stepped.place_eq_or thread with stays | ⟨move, rfl⟩
    · exact serves.reports thread flight result (stays ▸ reports)
    · cases stepped with
      | @finish _ _ key _ stands =>
          rw [advance_place_self] at reports
          cases reports
          have calls := serves.known thread key (by rw [stands]; rfl)
          exact ⟨key, calls, serves.finish_eq fair stands⟩
      | drop stands =>
          rw [advance_place_self] at reports
          cases reports
          exact serves.reports thread flight _ (by rw [stands]; rfl)
      | _ =>
          rw [advance_place_self] at reports
          cases reports

/-- Once all calls have ended, the cache is at rest, and calls for the same keys would come to
the same again. -/
theorem atRest_of_outside (outside : ∀ thread, threads.place thread = .outside) :
    threads.cache.AtRest ∧ ∀ thread key, called thread = some key →
      answer world threads.cache key = answer world start key := by
  have atRest := serves.manned.atRest outside
  refine ⟨atRest, fun thread key calls => ?_⟩
  cases found : threads.cache.flight? key with
  | none => rw [answer_of_free found, answer_of_free (serves.free_of_free calls found)]
  | some flight =>
      obtain ⟨under, member, _⟩ := exists_mem_of_flight? found
      obtain ⟨result, ended⟩ := atRest.exists_result member
      have promised := serves.promised_of_flight? rests consistent calls found
      rw [answer_of_stored found ended]
      exact promised.lands result (.inl (result?_eq_some_iff.mp ended))

end Serves

end Threads

end Montage.ProbeCache
