import Montage.Machine.Schedule
import Montage.Media.Cache

/-!
# Threads that share a cache of probes

A request for a source first looks up when the file was changed, which gives the key.
Then it asks the cache under the lock.  It waits if a flight is stored under the key,
else it owns the flight that it has stored there: it probes the file, and ends the
flight with the result.  If the probe has failed, the owner drops whatever is stored
under the key first, again under the lock, and ends the flight only then.  Seeding
looks up the key too and stores under the lock.

Between these turns other threads may have their own, and files may change.  A
request for a file that does not exist ends where it began and is no turn here.

A probe fails by ending with a fault, which those who have asked for it may handle.
What ends the whole program in the middle of a probe, such as an interrupt or an exit,
is no fault and has no turn: the owner would leave its flight without an end, and its
key taken.
-/

namespace Montage.ProbeCache

variable {α : Type}

/-- Where a thread stands. -/
inductive Place (α : Type) where
  /-- Neither inside a request nor about to seed. -/
  | outside
  /-- Knows the key, and has not asked the cache yet. -/
  | keyed (key : ProbeKey α)
  /-- Waits for the end of a flight. -/
  | waiting (flight : Nat)
  /-- Owns a flight and has not begun to probe. -/
  | owner (key : ProbeKey α) (flight : Nat)
  | probing (key : ProbeKey α) (flight : Nat)
  /-- The probe has ended and the cache does not know yet. -/
  | probed (key : ProbeKey α) (flight : Nat) (result : Result α (MediaInfo α))
  /-- The probe has failed, and its key is free again. -/
  | dropped (flight : Nat) (fault : Fault α)
  /-- Knows the key for what is to be seeded. -/
  | bringing (key : ProbeKey α) (info : MediaInfo α)

/-- What a thread can do. -/
inductive Move (α : Type) where
  /-- Enters a request for a path and looks up its key. -/
  | look (path : String)
  /-- Finds a flight under the key. -/
  | join
  /-- Finds nothing under the key and stores a flight of its own. -/
  | own
  /-- Begins to probe. -/
  | begin
  /-- Comes to the end of its probe, be it a fault. -/
  | finish (result : Result α (MediaInfo α))
  /-- Drops what is stored under the key of a probe that has failed. -/
  | drop
  /-- Ends its flight, and the request with it. -/
  | publish
  /-- Gets the result of the flight it has waited for, which ends the request. -/
  | receive
  /-- Looks up the key of a path for what is to be seeded. -/
  | bring (path : String) (info : MediaInfo α)
  /-- Stores what it has brought. -/
  | seed

/-- A move of one thread, or a change of a file, which may be created or deleted. -/
inductive Turn (α : Type) where
  | act (thread : Nat) (move : Move α)
  | change (path : String) (time : Option α)

/-- When every file was changed, the cache, and the places of all threads. -/
structure Threads (α : Type) where
  changedAt : String → Option α
  cache : ProbeCache α
  place : Nat → Place α

namespace Threads

/-- No request has been made. -/
def idle (changedAt : String → Option α) : Threads α :=
  ⟨changedAt, .empty, fun _ => .outside⟩

/-- One thread has moved, and the cache may have changed. -/
def advance (threads : Threads α) (thread : Nat) (place : Place α) (cache : ProbeCache α) :
    Threads α :=
  ⟨threads.changedAt, cache, Schedule.move threads.place thread place⟩

/-- A file has changed. -/
def change (threads : Threads α) (path : String) (time : Option α) : Threads α :=
  { threads with
    changedAt := fun other => if other = path then time else threads.changedAt other }

/-- The key of a path, if the file exists. -/
def key? (threads : Threads α) (path : String) : Option (ProbeKey α) :=
  (threads.changedAt path).map fun time => ⟨path, time⟩

/-- Whether a thread is inside a probe of a path. -/
def probes (threads : Threads α) (path : String) (thread : Nat) : Bool :=
  match threads.place thread with
  | .probing key _ => key.path == path
  | _ => false

/-- What a request answers by a move of its thread, if the move ends it. -/
def answer? (threads : Threads α) (thread : Nat) : Move α → Option (Result α (MediaInfo α))
  | .publish =>
      match threads.place thread with
      | .probed _ _ (.ok info) => some (.ok info)
      | .dropped _ fault => some (.error fault)
      | _ => none
  | .receive =>
      match threads.place thread with
      | .waiting flight => threads.cache.result? flight
      | _ => none
  | _ => none

variable [Scalar α]

/-- The threads after a move of one of them, if it is possible. -/
def act (threads : Threads α) (thread : Nat) (move : Move α) : Option (Threads α) :=
  let goTo := threads.advance thread
  let cache := threads.cache
  match move, threads.place thread with
  | .look path, .outside => (threads.key? path).map fun key => goTo (.keyed key) cache
  | .join, .keyed key =>
      match cache.request key with
      | (.joined flight, cache) => some (goTo (.waiting flight) cache)
      | (.owned _, _) => none
  | .own, .keyed key =>
      match cache.request key with
      | (.owned flight, cache) => some (goTo (.owner key flight) cache)
      | (.joined _, _) => none
  | .begin, .owner key flight => some (goTo (.probing key flight) cache)
  | .finish result, .probing key flight => some (goTo (.probed key flight result) cache)
  | .drop, .probed key flight (.error fault) =>
      some (goTo (.dropped flight fault) (cache.discard key))
  | .publish, .probed _ flight (.ok info) => some (goTo .outside (cache.finish flight (.ok info)))
  | .publish, .dropped flight fault => some (goTo .outside (cache.finish flight (.error fault)))
  | .receive, .waiting flight => (cache.result? flight).map fun _ => goTo .outside cache
  | .bring path info, .outside =>
      (threads.key? path).map fun key => goTo (.bringing key info) cache
  | .seed, .bringing key info => some (goTo .outside (cache.seed key info))
  | _, _ => none

/-- The threads after a turn, if it is possible. -/
def step (threads : Threads α) : Turn α → Option (Threads α)
  | .act thread move => threads.act thread move
  | .change path time => some (threads.change path time)

/-- The threads behind a schedule that begins with an empty cache. -/
def after (changedAt : String → Option α) (turns : List (Turn α)) : Option (Threads α) :=
  Schedule.run step (idle changedAt) turns

end Threads

/-- Whether no turn of a schedule changes a path. -/
def Turn.keeps (path : String) : Turn α → Bool
  | .act _ _ => true
  | .change other _ => other != path

/-- Whether a turn brings nothing from elsewhere. -/
def Turn.bringsNothing : Turn α → Bool
  | .act _ (.bring _ _) => false
  | _ => true

end Montage.ProbeCache
