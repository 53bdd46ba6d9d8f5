import Montage.Proofs.Media.FanOut.Gathering
import Montage.Proofs.Schedule

/-!
# Turns of a pool

Every file of the clips waits for a worker, is being probed or has been probed, and this only
once.  Whatever the probes come to, and in which order they end, the pool goes on until all files
have been probed.
-/

namespace Montage.FanOut

variable {α : Type} {clips : List (Clip α)} {workers : ℤ}

/-- Whether a worker takes the next file. -/
def Turn.starts : Turn α → Bool
  | .start => true
  | .finish _ _ => false

/-- The probe that a turn brings to its end. -/
def Turn.ending? : Turn α → Option (Probed α)
  | .start => none
  | .finish file result => some (file, result)

namespace Pool

variable {pool next : Pool α} {turn : Turn α} {turns : List (Turn α)} {file : String}

/-! ## Turns -/

/-- The pool after the probe of a file has ended. -/
def close (pool : Pool α) (file : String) (result : Result α (MediaInfo α)) : Pool α :=
  { pool with busy := pool.busy.erase file, ended := pool.ended ++ [(file, result)] }

/-- What a turn asks of a pool, and what it makes of it. -/
inductive Step (workers : ℤ) (pool : Pool α) : Turn α → Pool α → Prop
  | start {file : String} {rest : List String} (waits : pool.waiting = file :: rest)
      (free : pool.busy.length < max 1 workers.toNat) :
      Step workers pool .start { pool with waiting := rest, busy := pool.busy ++ [file] }
  | finish {file : String} (busy : file ∈ pool.busy) (result : Result α (MediaInfo α)) :
      Step workers pool (.finish file result) (pool.close file result)

theorem step_eq_some_iff : pool.step workers turn = some next ↔ Step workers pool turn next := by
  constructor
  · intro stepped
    cases turn with
    | start =>
        simp only [step] at stepped
        split at stepped
        · cases stepped
        · rename_i file rest waits
          split at stepped
          · rename_i free
            cases stepped
            exact .start waits free
          · cases stepped
    | finish file result =>
        simp only [step] at stepped
        split at stepped
        · rename_i busy
          cases stepped
          exact .finish (by simpa using busy) result
        · cases stepped
  · intro taken
    cases taken with
    | start waits free => simp [step, waits, free]
    | finish busy result => simp [step, close, busy]

/-! ## Where files are -/

/-- The files of a pool: those that wait, those that are being probed, and those that have been. -/
def filed (pool : Pool α) : List String :=
  pool.waiting ++ pool.busy ++ pool.ended.map Prod.fst

theorem filed_ofClips (clips : List (Clip α)) : (ofClips clips).filed = files clips := by
  simp [filed, ofClips]

theorem filed_of_done (done : pool.Done) : pool.filed = pool.ended.map Prod.fst := by
  rw [filed, done.1, done.2]
  rfl

/-- No turn loses a file or brings one in. -/
theorem filed_perm (stepped : Step workers pool turn next) : next.filed.Perm pool.filed := by
  rw [List.perm_iff_count]
  intro name
  cases stepped with
  | start waits _ =>
      simp only [filed, waits, List.count_append, List.count_cons, List.count_nil]
      omega
  | @finish file busy _ =>
      have moved := (List.perm_cons_erase busy).count_eq name
      simp only [List.count_cons] at moved
      simp only [filed, close, moved, List.map_append, List.map_cons, List.map_nil,
        List.count_append, List.count_cons, List.count_nil]
      omega

/-- What a pool has come to by the turns that it has taken. -/
structure Runs (workers : ℤ) (clips : List (Clip α)) (turns : List (Turn α)) (pool : Pool α) :
    Prop where
  /-- Every file waits, is being probed or has been probed, and this only once. -/
  once : pool.filed.Perm (files clips)
  /-- Files are taken in their order, one by each start. -/
  waiting : pool.waiting = (files clips).drop (turns.countP Turn.starts)
  ended : pool.ended = turns.filterMap Turn.ending?
  /-- Every probe that has begun is under way or has ended. -/
  begun : turns.countP Turn.starts = pool.busy.length + pool.ended.length
  few : pool.busy.length ≤ max 1 workers.toNat

theorem runs_ofClips : (ofClips clips).Runs workers clips [] where
  once := by rw [filed_ofClips]
  waiting := rfl
  ended := rfl
  begun := rfl
  few := Nat.zero_le _

/-- One more turn. -/
theorem Runs.step (runs : pool.Runs workers clips turns) (stepped : Step workers pool turn next) :
    next.Runs workers clips (turns ++ [turn]) where
  once := (filed_perm stepped).trans runs.once
  waiting := by
    rw [List.countP_append]
    cases stepped with
    | start waits free =>
        rw [List.countP_singleton, if_pos (show Turn.starts (.start : Turn α) = true from rfl),
          ← List.drop_drop, ← runs.waiting, waits]
        rfl
    | finish busy result => exact runs.waiting
  ended := by
    rw [List.filterMap_append, ← runs.ended]
    cases stepped with
    | start waits free => exact (List.append_nil _).symm
    | finish busy result => rfl
  begun := by
    rw [List.countP_append, runs.begun]
    cases stepped with
    | start waits free =>
        rw [List.length_append]
        exact Nat.add_right_comm _ _ _
    | finish busy result =>
        have positive := List.length_pos_of_mem busy
        simp only [close, List.length_erase_of_mem busy, List.length_append, List.length_singleton,
          List.countP_singleton, Turn.starts, Bool.false_eq_true, if_false]
        omega
  few := by
    cases stepped with
    | start waits free => simpa using free
    | finish busy result => exact (List.length_erase_le).trans runs.few

theorem runs_of_run
    (ran : Schedule.run (Pool.step workers) (ofClips clips) turns = some pool) :
    pool.Runs workers clips turns := by
  have onward : ∀ {before turns : List (Turn α)} {start : Pool α},
      start.Runs workers clips before → Schedule.run (Pool.step workers) start turns = some pool →
        pool.Runs workers clips (before ++ turns) := by
    intro before turns start runs ran
    induction turns generalizing before start with
    | nil =>
        cases ran
        rwa [List.append_nil]
    | cons turn turns ih =>
        obtain ⟨next, stepped, ranRest⟩ := Schedule.run_cons_eq_some_iff.mp ran
        have later := ih (runs.step (step_eq_some_iff.mp stepped)) ranRest
        rwa [List.append_assoc] at later
  exact onward runs_ofClips ran

/-! ## Going on -/

theorem length_eq_starts_add_endings (turns : List (Turn α)) :
    turns.length = turns.countP Turn.starts + (turns.filterMap Turn.ending?).length := by
  induction turns with
  | nil => rfl
  | cons turn turns ih =>
      cases turn with
      | start =>
          have none : (Turn.start :: turns).filterMap Turn.ending? =
              turns.filterMap Turn.ending? := rfl
          rw [List.length_cons, ih, List.countP_cons_of_pos rfl, none, Nat.add_right_comm]
      | finish file result =>
          have one : (Turn.finish file result :: turns).filterMap Turn.ending? =
              (file, result) :: turns.filterMap Turn.ending? := rfl
          rw [List.length_cons, ih, List.countP_cons_of_neg Bool.false_ne_true, one,
            List.length_cons, Nat.add_assoc]

/-- Two turns are taken for each file, and no more. -/
theorem Runs.length_eq (runs : pool.Runs workers clips turns) :
    turns.length + (2 * pool.waiting.length + pool.busy.length) = 2 * (files clips).length := by
  have turns_eq := length_eq_starts_add_endings turns
  have all := runs.once.length_eq
  rw [← runs.ended, runs.begun] at turns_eq
  simp only [filed, List.length_append, List.length_map] at all
  omega

/-- A pool goes on until it is done, whatever the probes come to. -/
theorem goes_on (workers : ℤ) (notDone : ¬pool.Done) :
    (∃ next, Step workers pool .start next) ∨
      ∃ file ∈ pool.busy, ∀ result, Step workers pool (.finish file result)
        (pool.close file result) := by
  by_cases idle : pool.busy = []
  · left
    cases waits : pool.waiting with
    | nil => exact (notDone ⟨waits, idle⟩).elim
    | cons file rest =>
        refine ⟨_, .start waits ?_⟩
        rw [idle]
        exact Nat.lt_of_lt_of_le one_pos (le_max_left 1 _)
  · obtain ⟨file, busy⟩ := List.exists_mem_of_ne_nil _ idle
    exact .inr ⟨file, busy, fun result => .finish busy result⟩

/-- Once a pool is done, every file has been probed once. -/
theorem Runs.gathers (runs : pool.Runs workers clips turns) (done : pool.Done) :
    Gathers clips pool.ended := by
  apply gathers_of_perm
  rw [← filed_of_done done]
  exact runs.once

end Pool

end Montage.FanOut
