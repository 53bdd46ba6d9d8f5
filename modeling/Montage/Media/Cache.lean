import Montage.Media.Info

/-!
# The cache of probes

What is known about a source holds as long as the file is not changed, so it is kept
under the path and the time of the last change.  An entry points to a flight, which
is a probe under way or done: whoever asks for a file that is being probed waits for
the same flight.  There is at most one entry for a path.

Every function here is one section under the lock of the cache, or the end of a
flight.  Between them others may have their turn.
-/

namespace Montage

/-- What an entry is kept under: the resolved path and the time of the last
change. -/
structure ProbeKey (α : Type) where
  path : String
  changedAt : α

/-- Whether two keys are the same. -/
def ProbeKey.same {α : Type} [Scalar α] (left right : ProbeKey α) : Bool :=
  left.path == right.path && Scalar.eq left.changedAt right.changedAt

/-- The entries, and the result of every flight that has ended. -/
structure ProbeCache (α : Type) where
  entries : List (ProbeKey α × Nat)
  flights : List (Option (Result α (MediaInfo α)))

/-- What a request gets: a flight of someone else, or one of its own to carry out. -/
inductive Ticket where
  | joined (flight : Nat)
  | owned (flight : Nat)
deriving DecidableEq, Repr

namespace ProbeCache

variable {α : Type}

/-- The cache before any request. -/
def empty : ProbeCache α := ⟨[], []⟩

/-- How many entries there are. -/
def size (cache : ProbeCache α) : Nat :=
  cache.entries.length

/-- The result of a flight, if it has ended. -/
def result? (cache : ProbeCache α) (flight : Nat) : Option (Result α (MediaInfo α)) :=
  cache.flights[flight]?.join

/-- Ends a flight. -/
def finish (cache : ProbeCache α) (flight : Nat) (result : Result α (MediaInfo α)) :
    ProbeCache α :=
  { cache with flights := cache.flights.set flight (some result) }

/-- Stores a flight under a key in place of every entry for the path. -/
def store (cache : ProbeCache α) (key : ProbeKey α) (flight : Nat) : ProbeCache α :=
  { cache with
    entries := (cache.entries.filter fun entry => entry.1.path != key.path) ++ [(key, flight)] }

/-- Begins a flight, which may have a result already, and stores it. -/
def launch (cache : ProbeCache α) (key : ProbeKey α)
    (result : Option (Result α (MediaInfo α))) : ProbeCache α :=
  { cache with flights := cache.flights ++ [result] }.store key cache.flights.length

/-- Puts in what is known from elsewhere. -/
def seed (cache : ProbeCache α) (key : ProbeKey α) (info : MediaInfo α) : ProbeCache α :=
  cache.launch key (some (.ok info))

variable [Scalar α]

/-- The flight under a key. -/
def flight? (cache : ProbeCache α) (key : ProbeKey α) : Option Nat :=
  (cache.entries.find? fun entry => entry.1.same key).map Prod.snd

/-- Asks for a key: joins the flight that is there, or begins one. -/
def request (cache : ProbeCache α) (key : ProbeKey α) : Ticket × ProbeCache α :=
  match cache.flight? key with
  | some flight => (.joined flight, cache)
  | none => (.owned cache.flights.length, cache.launch key none)

/-- Drops the entry under a key, as the owner of a failed flight does before ending
it. -/
def discard (cache : ProbeCache α) (key : ProbeKey α) : ProbeCache α :=
  { cache with entries := cache.entries.filter fun entry => !entry.1.same key }

/-- What the owner of a flight does with the result of its probe. -/
def settle (cache : ProbeCache α) (key : ProbeKey α) (flight : Nat)
    (result : Result α (MediaInfo α)) : ProbeCache α :=
  match result with
  | .ok _ => cache.finish flight result
  | .error _ => (cache.discard key).finish flight result

end ProbeCache

end Montage
