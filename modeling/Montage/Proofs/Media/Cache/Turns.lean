import Montage.Media.Cache.Threads
import Montage.Proofs.Media.Cache.Entries
import Montage.Proofs.Schedule

/-!
# Turns of threads that share a cache

What every turn asks of the threads and what it makes of them, and what can be read off the
place where a thread stands: the key that it knows, the flight that it is to end, and the
result of its probe.
-/

namespace Montage.ProbeCache

variable {α : Type}

/-! ## Places -/

/-- The key that a thread knows. -/
def Place.key? : Place α → Option (ProbeKey α)
  | .keyed key | .owner key _ | .probing key _ | .probed key _ _ | .bringing key _ => some key
  | .outside | .waiting _ | .dropped _ _ => none

/-- The flight that a thread is to end. -/
def Place.carries? : Place α → Option ℕ
  | .owner _ flight | .probing _ flight | .probed _ flight _ | .dropped flight _ => some flight
  | .outside | .keyed _ | .waiting _ | .bringing _ _ => none

/-- The key and the flight of a thread that has stored one under the other and not dropped
it. -/
def Place.flies? : Place α → Option (ProbeKey α × ℕ)
  | .owner key flight | .probing key flight | .probed key flight _ => some (key, flight)
  | .outside | .keyed _ | .waiting _ | .dropped _ _ | .bringing _ _ => none

/-- The flight and the result of a thread whose probe has ended. -/
def Place.reports? : Place α → Option (ℕ × Result α (MediaInfo α))
  | .probed _ flight result => some (flight, result)
  | .dropped flight fault => some (flight, .error fault)
  | .outside | .keyed _ | .waiting _ | .owner _ _ | .probing _ _ | .bringing _ _ => none

theorem Place.key?_of_flies? {place : Place α} {key : ProbeKey α} {flight : ℕ}
    (flies : place.flies? = some (key, flight)) : place.key? = some key := by
  cases place <;> simp_all [flies?, key?]

theorem Place.carries?_of_flies? {place : Place α} {key : ProbeKey α} {flight : ℕ}
    (flies : place.flies? = some (key, flight)) : place.carries? = some flight := by
  cases place <;> simp_all [flies?, carries?]

theorem Place.carries?_of_reports? {place : Place α} {flight : ℕ}
    {result : Result α (MediaInfo α)} (reports : place.reports? = some (flight, result)) :
    place.carries? = some flight := by
  cases place <;> simp_all [reports?, carries?]

namespace Threads

variable {threads next : Threads α} {turn : Turn α} {thread : ℕ} {place : Place α}
  {cache : ProbeCache α}

theorem advance_place_self : (threads.advance thread place cache).place thread = place :=
  Schedule.move_self _ _ _

theorem advance_place_of_ne {other : ℕ} (different : other ≠ thread) :
    (threads.advance thread place cache).place other = threads.place other :=
  Schedule.move_of_ne _ _ different

variable [Scalar α]

/-! ## Turns -/

/-- What a turn asks of the threads, and what it makes of them. -/
inductive Step (threads : Threads α) : Turn α → Threads α → Prop
  | look {thread : ℕ} {path : String} {key : ProbeKey α}
      (stands : threads.place thread = .outside) (dated : threads.key? path = some key) :
      Step threads (.act thread (.look path))
        (threads.advance thread (.keyed key) threads.cache)
  | join {thread flight : ℕ} {key : ProbeKey α} (stands : threads.place thread = .keyed key)
      (stored : threads.cache.flight? key = some flight) :
      Step threads (.act thread .join) (threads.advance thread (.waiting flight) threads.cache)
  | own {thread : ℕ} {key : ProbeKey α} (stands : threads.place thread = .keyed key)
      (free : threads.cache.flight? key = none) :
      Step threads (.act thread .own)
        (threads.advance thread (.owner key threads.cache.flights.length)
          (threads.cache.launch key none))
  | begin {thread flight : ℕ} {key : ProbeKey α}
      (stands : threads.place thread = .owner key flight) :
      Step threads (.act thread .begin)
        (threads.advance thread (.probing key flight) threads.cache)
  | finish {thread flight : ℕ} {key : ProbeKey α} {result : Result α (MediaInfo α)}
      (stands : threads.place thread = .probing key flight) :
      Step threads (.act thread (.finish result))
        (threads.advance thread (.probed key flight result) threads.cache)
  | drop {thread flight : ℕ} {key : ProbeKey α} {fault : Fault α}
      (stands : threads.place thread = .probed key flight (.error fault)) :
      Step threads (.act thread .drop)
        (threads.advance thread (.dropped flight fault) (threads.cache.discard key))
  | land {thread flight : ℕ} {key : ProbeKey α} {info : MediaInfo α}
      (stands : threads.place thread = .probed key flight (.ok info)) :
      Step threads (.act thread .publish)
        (threads.advance thread .outside (threads.cache.finish flight (.ok info)))
  | crash {thread flight : ℕ} {fault : Fault α}
      (stands : threads.place thread = .dropped flight fault) :
      Step threads (.act thread .publish)
        (threads.advance thread .outside (threads.cache.finish flight (.error fault)))
  | receive {thread flight : ℕ} {result : Result α (MediaInfo α)}
      (stands : threads.place thread = .waiting flight)
      (ended : threads.cache.result? flight = some result) :
      Step threads (.act thread .receive) (threads.advance thread .outside threads.cache)
  | bring {thread : ℕ} {path : String} {key : ProbeKey α} {info : MediaInfo α}
      (stands : threads.place thread = .outside) (dated : threads.key? path = some key) :
      Step threads (.act thread (.bring path info))
        (threads.advance thread (.bringing key info) threads.cache)
  | seed {thread : ℕ} {key : ProbeKey α} {info : MediaInfo α}
      (stands : threads.place thread = .bringing key info) :
      Step threads (.act thread .seed)
        (threads.advance thread .outside (threads.cache.seed key info))
  | change {path : String} {time : Option α} :
      Step threads (.change path time) (threads.change path time)

private theorem step_of_act {move : Move α} (stepped : threads.act thread move = some next) :
    Step threads (.act thread move) next := by
  simp only [act] at stepped
  split at stepped
  · rename_i stands
    rcases Option.map_eq_some_iff.mp stepped with ⟨key, dated, rfl⟩
    exact .look stands dated
  · rename_i stands
    split at stepped
    · rename_i asked
      rcases request_joins_iff.mp asked with ⟨stored, rfl⟩
      cases stepped
      exact .join stands stored
    · cases stepped
  · rename_i stands
    split at stepped
    · rename_i asked
      rcases request_owns_iff.mp asked with ⟨free, rfl, rfl⟩
      cases stepped
      exact .own stands free
    · cases stepped
  · rename_i stands
    cases stepped
    exact .begin stands
  · rename_i stands
    cases stepped
    exact .finish stands
  · rename_i stands
    cases stepped
    exact .drop stands
  · rename_i stands
    cases stepped
    exact .land stands
  · rename_i stands
    cases stepped
    exact .crash stands
  · rename_i stands
    rcases Option.map_eq_some_iff.mp stepped with ⟨result, ended, rfl⟩
    exact .receive stands ended
  · rename_i stands
    rcases Option.map_eq_some_iff.mp stepped with ⟨key, dated, rfl⟩
    exact .bring stands dated
  · rename_i stands
    cases stepped
    exact .seed stands
  · cases stepped

/-- A turn is possible exactly when its thread stands where it begins and finds what it
needs. -/
theorem step_eq_some_iff : threads.step turn = some next ↔ Step threads turn next := by
  constructor
  · intro stepped
    cases turn with
    | act thread move => exact step_of_act stepped
    | change path time =>
        cases stepped
        exact .change
  · intro taken
    cases taken with
    | look stands dated => simp [step, act, stands, dated]
    | join stands stored => simp [step, act, stands, request_joins_iff.mpr ⟨stored, rfl⟩]
    | own stands free => simp [step, act, stands, request_owns_iff.mpr ⟨free, rfl, rfl⟩]
    | begin stands => simp [step, act, stands]
    | finish stands => simp [step, act, stands]
    | drop stands => simp [step, act, stands]
    | land stands => simp [step, act, stands]
    | crash stands => simp [step, act, stands]
    | receive stands ended => simp [step, act, stands, ended]
    | bring stands dated => simp [step, act, stands, dated]
    | seed stands => simp [step, act, stands]
    | change => rfl

/-- A turn leaves a thread where it stands, or is a move of that thread. -/
theorem Step.place_eq_or (stepped : Step threads turn next) (thread : ℕ) :
    next.place thread = threads.place thread ∨ ∃ move, turn = .act thread move := by
  cases turn with
  | act mover move =>
      by_cases moves : thread = mover
      · exact .inr ⟨move, by rw [moves]⟩
      · left
        cases stepped <;> exact advance_place_of_ne moves
  | change path time =>
      cases stepped
      exact .inl rfl

end Threads

end Montage.ProbeCache
