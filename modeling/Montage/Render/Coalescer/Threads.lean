import Montage.Machine.Schedule
import Montage.Render.Coalescer

/-!
# Threads that share a coalescer

Any number of threads make requests of one coalescer.  A request asks the coalescer
under its lock.  It is declined while another thread runs renders, else the thread
becomes the runner: it renders, asks under the lock whether to go on, and renders
again or leaves.  A render that fails takes its runner out of the request by way of
the lock.  Between these turns any other thread may have its own.

A request made from within a render stands for one of a thread of its own, since
such a request is declined at once.  A request that was declined has answered `false`,
and a runner that leaves has answered `true`.
-/

namespace Montage.Coalescer

/-- Where a thread stands. -/
inductive Place where
  /-- Not inside a request. -/
  | outside
  /-- Inside a request that has not asked the coalescer yet. -/
  | asking
  /-- About to begin a render. -/
  | runner
  | rendering
  /-- The render has come to its end, and the coalescer is not asked yet. -/
  | rendered
  /-- The render has failed, and the coalescer does not know yet. -/
  | failed
deriving DecidableEq, Repr

/-- What a thread can do. -/
inductive Move where
  /-- Enters a request. -/
  | call
  /-- Learns that a render is running, and answers `false`. -/
  | decline
  /-- Becomes the runner. -/
  | claim
  /-- Begins a render. -/
  | begin
  /-- Comes to the end of its render. -/
  | finish
  /-- Ends its render in a fault. -/
  | fail
  /-- Learns that one more render is to be run. -/
  | again
  /-- Learns that no more renders are to be run, and answers `true`. -/
  | leave
  /-- Lets everything go behind a render that has failed. -/
  | abort
deriving DecidableEq, Repr

/-- A move of one thread. -/
structure Turn where
  thread : Nat
  move : Move
deriving DecidableEq, Repr

/-- The coalescer and the places of all threads. -/
structure Threads where
  state : Coalescer
  place : Nat → Place

namespace Threads

/-- No thread is inside a request. -/
def idle : Threads := ⟨.idle, fun _ => .outside⟩

/-- One thread has moved, and the coalescer may have changed. -/
def advance (threads : Threads) (thread : Nat) (place : Place) (state : Coalescer) : Threads :=
  ⟨state, Schedule.move threads.place thread place⟩

/-- The threads after a turn, if it is possible. -/
def step (threads : Threads) (turn : Turn) : Option Threads :=
  let goTo := threads.advance turn.thread
  match turn.move, threads.place turn.thread with
  | .call, .outside => some (goTo .asking threads.state)
  | .decline, .asking =>
      match threads.state.request with
      | (false, state) => some (goTo .outside state)
      | (true, _) => none
  | .claim, .asking =>
      match threads.state.request with
      | (true, state) => some (goTo .runner state)
      | (false, _) => none
  | .begin, .runner => some (goTo .rendering threads.state)
  | .finish, .rendering => some (goTo .rendered threads.state)
  | .fail, .rendering => some (goTo .failed threads.state)
  | .again, .rendered =>
      match threads.state.settle with
      | (true, state) => some (goTo .runner state)
      | (false, _) => none
  | .leave, .rendered =>
      match threads.state.settle with
      | (false, state) => some (goTo .outside state)
      | (true, _) => none
  | .abort, .failed => some (goTo .outside threads.state.abort)
  | _, _ => none

/-- The threads behind a schedule, all of which stood outside before it. -/
def after (turns : List Turn) : Option Threads :=
  Schedule.run step idle turns

/-- No thread is inside a request. -/
def Quiet (threads : Threads) : Prop :=
  ∀ thread, threads.place thread = .outside

end Threads

/-! ## Counts over a schedule -/

/-- How often a move is made. -/
def count (move : Move) (turns : List Turn) : Nat :=
  turns.countP fun turn => turn.move == move

/-- Whether a request is declined before a turn that `ends` picks. -/
def declinedBefore (ends : Move → Bool) (turns : List Turn) : Bool :=
  (turns.takeWhile fun turn => !ends turn.move).any fun turn => turn.move == .decline

/-- The end of a render, be it a fault. -/
def Move.endsRender : Move → Bool
  | finish | fail => true
  | _ => false

/-- The beginning of a round: its runner holds the coalescer and is to render. -/
def Move.opensRound : Move → Bool
  | claim | again => true
  | _ => false

/-- The end of a round: the coalescer is asked what comes next, or let go. -/
def Move.closesRound : Move → Bool
  | again | leave | abort => true
  | _ => false

/-- In how many renders a request is declined between the first turn of the render and
the last one. -/
def disturbedRenders : List Turn → Nat
  | [] => 0
  | turn :: turns =>
      (if turn.move == .begin && declinedBefore Move.endsRender turns then 1 else 0) +
        disturbedRenders turns

/-- In how many rounds a request is declined.  A round is a render with the moments
before and behind it in which its runner holds the coalescer. -/
def disturbedRounds : List Turn → Nat
  | [] => 0
  | turn :: turns =>
      (if turn.move.opensRound && declinedBefore Move.closesRound turns then 1 else 0) +
        disturbedRounds turns

/-- Every request that is declined has a render that begins behind it. -/
def Served (turns : List Turn) : Prop :=
  ∀ before thread rest, turns = before ++ ⟨thread, .decline⟩ :: rest →
    ∃ turn ∈ rest, turn.move = .begin

end Montage.Coalescer
