import Montage.Media.Cache.Threads
import Montage.Media.FanOut
import Montage.Media.Probe

/-!
# Workers that share a cache

The workers of a pool ask one cache for the files that they take.  Each call for a file
is a thread of its own: it looks up the key of the file, asks the cache, and waits for a
flight that it finds there or probes the file itself.  A call for a file that does not
exist ends where it begins.  The files stay as they are, and which call goes on next is
left open.
-/

namespace Montage

/-- When the file at a resolved path was last changed. -/
def Files.changedAt {α : Type} [Scalar α] (files : Files α) (path : String) : Option α :=
  (files.entry? (.ofText path)).map FileEntry.time

namespace FanOut

open ProbeCache (Place Move Threads)

/-- A pool and the threads of its calls. -/
structure Crew (α : Type) where
  pool : Pool α
  threads : Threads α

namespace Crew

/-- A worker takes the next file, or the call for a file goes on. -/
inductive Turn where
  | start
  | go (file : String)
deriving DecidableEq, Repr

variable {α : Type} [Scalar α]

/-- All files of the clips wait, and nobody uses the cache. -/
def ofClips (world : Files α) (cache : ProbeCache α) (clips : List (Clip α)) : Crew α :=
  ⟨.ofClips clips, ⟨world.changedAt, cache, fun _ => .outside⟩⟩

/-- The thread of the call for a file. -/
def thread (clips : List (Clip α)) (file : String) : Nat :=
  (files clips).idxOf file

/-- The path under which a file is kept in the cache. -/
def path (file : String) : String :=
  (Path.ofText file).resolve.toText

/-- What the call for a file does where it stands. -/
def nextMove (world : Files α) (cache : ProbeCache α) (file : String) : Place α → Move α
  | .outside => .look (path file)
  | .keyed key => if (cache.flight? key).isSome then .join else .own
  | .waiting _ => .receive
  | .owner _ _ => .begin
  | .probing key _ => .finish (Probe.file world (.ofText key.path))
  | .probed _ _ (.ok _) => .publish
  | .probed _ _ (.error _) => .drop
  | .dropped _ _ => .publish
  | .bringing _ _ => .seed

/-- Whether a call has not begun and its file does not exist. -/
def misses (threads : Threads α) (file : String) : Place α → Bool
  | .outside => (threads.key? (path file)).isNone
  | _ => false

/-- The crew after the call for a file has gone on, if it can. -/
def go (world : Files α) (clips : List (Clip α)) (workers : Int) (crew : Crew α)
    (file : String) : Option (Crew α) :=
  let thread := thread clips file
  let place := crew.threads.place thread
  let close (result : Result α (MediaInfo α)) (threads : Threads α) :=
    (crew.pool.step workers (.finish file result)).map fun pool => ⟨pool, threads⟩
  if !crew.pool.busy.contains file then none
  else if misses crew.threads file place then
    close (.error (.probe (.notFound (path file)))) crew.threads
  else
    let move := nextMove world crew.threads.cache file place
    (crew.threads.act thread move).bind fun threads =>
      match crew.threads.answer? thread move with
      | some result => close result threads
      | none => some { crew with threads }

/-- The crew after a turn, if it is possible. -/
def step (world : Files α) (clips : List (Clip α)) (workers : Int) (crew : Crew α) :
    Turn → Option (Crew α)
  | .start => (crew.pool.step workers .start).map fun pool => { crew with pool }
  | .go file => go world clips workers crew file

end Crew

end FanOut

end Montage
