import Montage.Association
import Montage.Media.Info

/-!
# Probing many sources

The sources of clips are probed side by side by a pool of workers.  Every file is
probed once, however many clips show it, and the results are gathered in the order in
which the probes end.  A file at fault does not keep others from being probed.  What
is gathered goes to the clips in an order that does not depend on the probes.
-/

namespace Montage.FanOut

variable {α : Type}

/-- The file of a probe that has ended, and its result. -/
abbrev Probed (α : Type) := String × Result α (MediaInfo α)

/-- The files of media clips, each once, in the order in which they first occur. -/
def files (clips : List (Clip α)) : List String :=
  (clips.filterMap fun clip => clip.source.file?).eraseDups

/-- The ids of the clips that show a file. -/
def idsOf (clips : List (Clip α)) (file : String) : List String :=
  (clips.filter fun clip => clip.source.file? == some file).map Clip.id

/-- What is known about the files of probes that have ended, or the first fault. -/
def gather : List (Probed α) → Result α (List (String × MediaInfo α))
  | [] => .ok []
  | (file, result) :: rest => do
      let info ← result
      return (file, info) :: (← gather rest)

/-- The files that are reported, which are those in front of the first fault. -/
def reported : List (Probed α) → List String
  | [] => []
  | (_, .error _) :: _ => []
  | (file, .ok _) :: rest => file :: reported rest

/-- What is known about the sources of clips, from what is known about files. -/
def assign (clips : List (Clip α)) (infos : List (String × MediaInfo α)) : MediaMap α :=
  let pairs := (files clips).flatMap fun file =>
    match infos.lookup file with
    | some info => (idsOf clips file).map fun id => (id, info)
    | none => []
  pairs.foldl (fun known (id, info) => Association.put id info known) []

/-- What is known about the sources of clips, from the probes in the order in which they
have ended. -/
def result (clips : List (Clip α)) (probed : List (Probed α)) : Result α (MediaMap α) :=
  (gather probed).map (assign clips)

/-! ## The pool -/

/-- The files that wait for a worker, those that are being probed, and the probes that
have ended, in this order. -/
structure Pool (α : Type) where
  waiting : List String
  busy : List String
  ended : List (Probed α)

/-- A worker takes the next file, or comes to the end of a probe. -/
inductive Turn (α : Type) where
  | start
  | finish (file : String) (result : Result α (MediaInfo α))

namespace Pool

/-- All files of the clips wait. -/
def ofClips (clips : List (Clip α)) : Pool α :=
  ⟨files clips, [], []⟩

/-- The pool after a turn, if it is possible.  At least one worker is at work. -/
def step (workers : Int) (pool : Pool α) : Turn α → Option (Pool α)
  | .start =>
      match pool.waiting with
      | [] => none
      | file :: rest =>
          if pool.busy.length < max 1 workers.toNat then
            some { pool with waiting := rest, busy := pool.busy ++ [file] }
          else none
  | .finish file result =>
      if pool.busy.contains file then
        some { pool with busy := pool.busy.erase file, ended := pool.ended ++ [(file, result)] }
      else none

/-- Every file has been probed. -/
def Done (pool : Pool α) : Prop :=
  pool.waiting = [] ∧ pool.busy = []

end Pool

end Montage.FanOut
