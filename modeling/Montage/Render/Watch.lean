import Montage.Render.Basic
import Montage.Render.Coalescer

/-!
# Watching files

A watcher looks at the times of change of some files, waits, looks again, and calls
back when anything is different.  It goes on until it is told to stop, or until it is
interrupted if nobody can tell it to stop.  Watching a template renders it once, then
again whenever the template or one of its sources changes; a template that is at
fault is reported and watched on.
-/

namespace Montage

/-- How watching ends. -/
inductive WatchEnd where
  | stopped
  | interrupted
deriving DecidableEq, Repr

namespace Watch

variable {α : Type} [Scalar α]

/-- The times of change of paths; a path that does not exist has none. -/
def times (files : Files α) (paths : List Path) : List (Option α) :=
  paths.map fun path => (files.entry? path).map FileEntry.time

/-- Whether two looks at the same paths have seen the same. -/
def same : List (Option α) → List (Option α) → Bool
  | [], [] => true
  | none :: rest, none :: others => same rest others
  | some x :: rest, some y :: others => Scalar.eq x y && same rest others
  | _, _ => false

/-- Goes through the waits to come.  `last` is what the look before has seen and
`tick` counts the waits. -/
def ticks (paths : List Path) (onChange : Nat → Program α Unit) (tick : Nat)
    (last : List (Option α)) : List (List (FileChange α)) → Program α Unit
  | [] => return ()
  | changes :: rest => do
      Program.changeFiles fun files => changes.foldl Files.change files
      let current := times (← get).files paths
      if !same current last then onChange tick
      ticks paths onChange (tick + 1) current rest

/-- Watches paths until there is nothing more to wait for.  `canStop` tells whether
the watcher can be told to stop. -/
def files (paths : List Path) (onChange : Nat → Program α Unit) (canStop : Bool) :
    Program α WatchEnd := do
  let session ← get
  set { session with waits := [] }
  ticks paths onChange 1 (times session.files paths) session.waits
  return if canStop then .stopped else .interrupted

/-- What is watched for a template: its file, and the files of its media clips if it
can be read. -/
def pathsOf (template : Path) : Program α (List Path) :=
  (do
    let loaded ← Render.loadTemplate template
    return template :: (loaded.clips.filterMap fun clip => clip.source.file?.map Path.ofText)
    : Program α (List Path)).rescue Fault.isInput fun _ => return [template]

variable [Analytic α]

/-- A pass as it is asked for on the command line, where the command may be printed
instead of run. -/
def renderOnce (template : Path) (mode : RenderMode α) (context : RenderContext)
    (dryRun : Bool) : Program α Unit := do
  let rendering ← Render.pass template mode context (!dryRun)
  if dryRun then
    match rendering.command.mapM id with
    | some words => Program.printLine (ShellWord.join words)
    | none => Program.ofResult (.error (.kind .unsupported))

/-- A pass that reports a template at fault instead of failing. -/
def renderReported (template : Path) (mode : RenderMode α) (context : RenderContext)
    (dryRun : Bool) : Program α Unit :=
  (renderOnce template mode context dryRun).rescue Fault.isReported fun fault =>
    Program.printLine s!"  ERROR  {fault.message}"

/-- Renders a template, and again after every change.  Nothing else runs here while a
render does, so each request runs one render. -/
def template (template : Path) (mode : RenderMode α) (context : RenderContext)
    (dryRun canStop : Bool) : Program α WatchEnd := do
  let render := renderReported template mode context dryRun
  render
  Render.log context s!"  WATCH  {template.toText}"
  files (← pathsOf template) (fun _ => render) canStop

end Watch

end Montage
