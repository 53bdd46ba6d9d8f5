/-!
# Coalescing requests

Renders are asked for whenever a file changes, but only one runs at a time.  A
request during a render leaves a mark, and whoever runs that render runs one more
behind it, however many requests there were.  The three functions on `Coalescer` are
its sections under the lock: a request, the end of a render, and a render that
fails.
-/

namespace Montage

/-- The shared state: whether a render is running, and whether one more has been
asked for since it began. -/
structure Coalescer where
  running : Bool
  pending : Bool
deriving DecidableEq, Repr

namespace Coalescer

/-- Nothing runs and nothing is asked for. -/
def idle : Coalescer := ⟨false, false⟩

/-- A request: whether it is to run the render itself. -/
def request (state : Coalescer) : Bool × Coalescer :=
  if state.running then (false, { state with pending := true })
  else (true, { state with running := true })

/-- The end of a render: whether one more is to be run. -/
def settle (state : Coalescer) : Bool × Coalescer :=
  if state.pending then (true, { state with pending := false })
  else (false, { state with running := false })

/-- A render that fails lets everything go. -/
def abort (_ : Coalescer) : Coalescer := idle

/-! ## Scripted renders

A script says what happens during one render: how many requests arrive, and whether
it fails in the end.  Renders for which there is no script do nothing. -/

/-- What happens during a render. -/
structure Script where
  requests : Nat
  failure : Option String
deriving DecidableEq, Repr

/-- What can be seen of a coalescer. -/
inductive Event where
  | render (index : Nat) (running : Bool)
  /-- A request during a render, and whether it ran a render. -/
  | nested (ran : Bool)
  /-- A request from outside, whether it ran a render, and whether one is running
  behind it. -/
  | request (ran running : Bool)
  /-- A request from outside that ran into a failure. -/
  | raised (message : String) (running : Bool)
deriving DecidableEq, Repr

/-- A coalescer with the scripts to come, the count of renders so far, and what has
been seen, the last event first. -/
structure Rehearsal where
  state : Coalescer
  scripts : List Script
  renders : Nat
  events : List Event
deriving DecidableEq, Repr

namespace Rehearsal

/-- Notes an event. -/
def note (rehearsal : Rehearsal) (event : Event) : Rehearsal :=
  { rehearsal with events := event :: rehearsal.events }

/-- Requests that arrive during a render. -/
def nested (rehearsal : Rehearsal) : Nat → Rehearsal
  | 0 => rehearsal
  | count + 1 =>
      let (ran, state) := rehearsal.state.request
      ({ rehearsal with state }.note (.nested ran)).nested count

/-- Runs renders as long as one more is to be run.  Each takes a script, and behind
the last script no requests arrive. -/
def run (state : Coalescer) (renders : Nat) (events : List Event) :
    List Script → Rehearsal × Option String
  | [] =>
      let (_, settled) := state.settle
      (⟨settled, [], renders + 1, .render renders state.running :: events⟩, none)
  | script :: rest =>
      let begun : Rehearsal :=
        ⟨state, rest, renders + 1, .render renders state.running :: events⟩
      let done := begun.nested script.requests
      match script.failure with
      | some message => ({ done with state := done.state.abort }, some message)
      | none =>
          match done.state.settle with
          | (true, state) => run state done.renders done.events rest
          | (false, state) => ({ done with state }, none)

/-- A request from outside. -/
def request (rehearsal : Rehearsal) : Rehearsal :=
  match rehearsal.state.request with
  | (false, state) => { rehearsal with state }.note (.request false state.running)
  | (true, state) =>
      match run state rehearsal.renders rehearsal.events rehearsal.scripts with
      | (done, none) => done.note (.request true done.state.running)
      | (done, some message) => done.note (.raised message done.state.running)

/-- Requests from outside, one after another. -/
def requests (rehearsal : Rehearsal) : Nat → Rehearsal
  | 0 => rehearsal
  | count + 1 => rehearsal.request.requests count

end Rehearsal

/-- What is seen when requests arrive one after another. -/
def rehearse (scripts : List Script) (requests : Nat) : List Event :=
  ((⟨idle, scripts, 0, []⟩ : Rehearsal).requests requests).events.reverse

end Coalescer

end Montage
