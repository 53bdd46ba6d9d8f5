import Montage.Render.Coalescer.Threads
import Montage.Render.Watch

/-!
# A watcher and its threads

The watcher is the thread `0`.  It makes one request of the coalescer for the first
render.  When it is back it looks at all watched paths, one after another, and what
it has seen is the baseline.  Then it waits and looks at all paths again, and if they
differ from the look before it starts a thread that makes a request.  Files may change
at any time, also in the middle of a look and during renders.

Which paths are watched does not change while the watcher runs.
-/

namespace Montage.Watch

variable {α : Type}

/-- What the watcher does. -/
inductive Stage where
  /-- It is inside the first request. -/
  | first
  /-- It looks at the paths for the first time. -/
  | baseline
  /-- It waits. -/
  | waiting
  /-- It looks at the paths again. -/
  | polling
  /-- The first request has failed, and the watcher with it. -/
  | ended
deriving DecidableEq, Repr

/-- A turn of the watcher, of a thread inside a request, or of a file. -/
inductive Turn (α : Type) where
  /-- The watched path at an index is changed, created or deleted. -/
  | change (index : Nat) (time : Option α)
  /-- A thread inside a request moves. -/
  | render (turn : Coalescer.Turn)
  /-- The watcher begins to look at the paths. -/
  | look
  /-- It looks at the next path. -/
  | glance
  /-- It has looked at all paths and compares. -/
  | compare

/-- The times of change of the watched paths, the threads inside requests, and what
the watcher does and has seen. -/
structure Watcher (α : Type) where
  times : List (Option α)
  threads : Coalescer.Threads
  /-- The number of the next thread to start. -/
  fresh : Nat
  stage : Stage
  /-- What the look under way has seen so far. -/
  seen : List (Option α)
  /-- What the last look has seen. -/
  last : List (Option α)

namespace Watcher

/-- The watcher has made the first request. -/
def start (times : List (Option α)) : Watcher α :=
  { times
    threads := Coalescer.Threads.idle.advance 0 .asking .idle
    fresh := 1
    stage := .first
    seen := []
    last := [] }

/-- Starts a thread that makes a request. -/
def notify (watcher : Watcher α) : Watcher α :=
  { watcher with
    threads := watcher.threads.advance watcher.fresh .asking watcher.threads.state
    fresh := watcher.fresh + 1 }

/-- Begins to look at the paths, unless the first request has not ended. -/
def look (watcher : Watcher α) : Option (Watcher α) :=
  match watcher.stage, watcher.threads.place 0 with
  | .first, .outside => some { watcher with stage := .baseline, seen := [] }
  | .waiting, _ => some { watcher with stage := .polling, seen := [] }
  | _, _ => none

/-- Whether a look is under way. -/
def looking (watcher : Watcher α) : Bool :=
  watcher.stage == .baseline || watcher.stage == .polling

/-- Looks at the next path. -/
def glance (watcher : Watcher α) : Option (Watcher α) :=
  if watcher.looking then
    watcher.times[watcher.seen.length]?.map fun time =>
      { watcher with seen := watcher.seen ++ [time] }
  else none

/-- Ends a look at all paths. -/
def compare [Scalar α] (watcher : Watcher α) : Option (Watcher α) :=
  if watcher.looking && watcher.seen.length == watcher.times.length then
    let rested := { watcher with stage := .waiting, last := watcher.seen }
    if watcher.stage == .baseline || same watcher.seen watcher.last then some rested
    else some rested.notify
  else none

/-- The stage behind a turn of a thread inside a request. -/
def stageAfter (watcher : Watcher α) (turn : Coalescer.Turn) : Stage :=
  if turn == ⟨0, .abort⟩ then .ended else watcher.stage

/-- The watcher after a turn, if it is possible.  Threads enter requests only when
they are started. -/
def step [Scalar α] (watcher : Watcher α) : Turn α → Option (Watcher α)
  | .change index time =>
      if index < watcher.times.length then
        some { watcher with times := watcher.times.set index time }
      else none
  | .render turn =>
      if turn.move == .call then none
      else
        (watcher.threads.step turn).map fun threads =>
          { watcher with threads, stage := watcher.stageAfter turn }
  | .look => watcher.look
  | .glance => watcher.glance
  | .compare => watcher.compare

/-- The watcher behind a schedule. -/
def after [Scalar α] (times : List (Option α)) (turns : List (Turn α)) : Option (Watcher α) :=
  Schedule.run step (start times) turns

/-- No request is under way, and none that was started is still to be made. -/
def Quiet (watcher : Watcher α) : Prop :=
  watcher.threads.Quiet

end Watcher

/-- Whether a turn is the beginning of a render. -/
def Turn.beginsRender : Turn α → Bool
  | .render turn => turn.move == .begin
  | _ => false

/-- Whether a turn is a render that fails. -/
def Turn.fails : Turn α → Bool
  | .render turn => turn.move == .fail
  | _ => false

/-- Whether a turn changes a path. -/
def Turn.isChange : Turn α → Bool
  | .change _ _ => true
  | _ => false

/-- Some path changes behind the last render. -/
def changedSinceRender : List (Turn α) → Bool
  | [] => false
  | turn :: turns =>
      (turn.isChange && !turns.any Turn.beginsRender) || changedSinceRender turns

/-- Whether a look begins and ends in a list of turns. -/
def hasPoll (turns : List (Turn α)) : Bool :=
  (turns.dropWhile fun turn => match turn with | .look => false | _ => true).any
    fun turn => match turn with | .compare => true | _ => false

/-- Whether a look begins behind the last change and ends. -/
def polledSinceChange (turns : List (Turn α)) : Bool :=
  hasPoll (turns.reverse.takeWhile fun turn => !turn.isChange).reverse

end Montage.Watch
