import Montage.Proofs.Media.Cache.SingleFlight
import Montage.Proofs.Render.Transparency

/-!
# Runs of many passes

Between the passes of a run files change, appear and vanish, and passes may fail.  As long as
what the sources hold is told by their paths and times, one cache for the whole run gives every
pass what a new cache would give it.
-/

namespace Montage.Render

/-- What happens in a run. -/
inductive Event (α : Type) where
  /-- A file changes, appears or vanishes. -/
  | change (change : FileChange α)
  /-- The clock, the times at which files are written, and the encoder are set for the passes
  to come. -/
  | supply (clock stamps : List α) (encoder : Outcome)
  | pass (template : Path) (mode : RenderMode α) (context : RenderContext) (run : Bool)

variable {α : Type} [Scalar α] [Analytic α] {contents : Contents α} {events : List (Event α)}
  {session : Session α}

/-- What the passes of a run come to, and the session behind it, where every pass is run in a
certain way. -/
def runs (way : Program α (Rendering α) → Program α (Rendering α)) :
    List (Event α) → Session α → List (Result α (Rendering α)) × Session α
  | [], session => ([], session)
  | .change change :: rest, session =>
      runs way rest { session with files := session.files.change change }
  | .supply clock stamps encoder :: rest, session =>
      runs way rest { session with clock, stamps, encoder }
  | .pass template mode context run :: rest, session =>
      let (result, behind) := (way (pass template mode context run)).outcome session
      let (results, last) := runs way rest behind
      (result :: results, last)

/-- Whenever a pass begins, the sources of its template hold what they should. -/
def Truthful (contents : Contents α) (events : List (Event α)) (session : Session α) : Prop :=
  ∀ earlier template mode context run rest,
    events = earlier ++ .pass template mode context run :: rest →
      SourcesHold contents template (runs id earlier session).2.files

/-- A run with one cache comes to what it comes to with a new cache for every pass. -/
structure Transparent (events : List (Event α)) (session : Session α) : Prop where
  /-- All passes have the same plans, commands and faults. -/
  results : (runs id events session).1 = (runs Program.withOwnCache events session).1
  /-- Nothing else differs but what is cached and what has been read. -/
  behind : ∃ reads, (runs Program.withOwnCache events session).2 =
    { (runs id events session).2 with cache := .empty, reads }
  /-- Each pass alone comes to what it comes to with a new cache. -/
  each : ∀ earlier template mode context run rest,
    events = earlier ++ .pass template mode context run :: rest →
      ((pass template mode context run).outcome (runs id earlier session).2).1 =
        ((Program.withOwnCache (pass template mode context run)).outcome
          (runs id earlier session).2).1
  /-- No path has two entries. -/
  one : (runs id events session).2.cache.OnePerPath

theorem Truthful.tail {event : Event α} (truthful : Truthful contents (event :: events) session) :
    Truthful contents events (runs id [event] session).2 := by
  intro earlier template mode context run rest split
  have here := truthful (event :: earlier) template mode context run rest (by rw [split]; rfl)
  cases event with
  | change _ => exact here
  | supply _ _ _ => exact here
  | pass _ _ _ _ => exact here

theorem Truthful.initial {earlier rest : List (Event α)}
    (truthful : Truthful contents (earlier ++ rest) session) :
    Truthful contents earlier session := by
  intro before template mode context run behind split
  apply truthful before template mode context run (behind ++ rest)
  rw [split, List.append_assoc, List.cons_append]

/-- In a run with one cache and in one with new caches, the sessions differ in the cache and in
what has been read, and the one cache knows the files. -/
theorem runs_alike (truthful : Truthful contents events session)
    (knows : session.cache.Knows contents) (reads : List String) :
    ∃ readsBehind,
      runs Program.withOwnCache events { session with cache := .empty, reads } =
        ((runs id events session).1,
          { (runs id events session).2 with cache := .empty, reads := readsBehind }) ∧
      (runs id events session).2.cache.Knows contents := by
  induction events generalizing session reads with
  | nil => exact ⟨reads, rfl, knows⟩
  | cons event events ih =>
      have tail := truthful.tail
      cases event with
      | change change => exact ih tail knows reads
      | supply clock stamps encoder => exact ih tail knows reads
      | pass template mode context run =>
          have hold := truthful [] template mode context run events rfl
          rcases carries_pass template mode context run _ _ (alike_empty knows hold reads) with
            ⟨same, cache, readsMiddle, behind, ⟨knowsMiddle, _⟩, _⟩
          rcases ih tail knowsMiddle readsMiddle with ⟨readsBehind, sameRest, knowsBehind⟩
          refine ⟨readsBehind, ?_, knowsBehind⟩
          rw [runs, Program.outcome_withOwnCache, ← same, behind]
          exact congrArg (fun last => (_ :: last.1, last.2)) sameRest

/-- A run that begins with an empty cache is transparent if the sources hold what they should
whenever a pass begins, and while threads ask a cache no path ever has two entries. -/
theorem transparent_of_truthful (fresh : session.cache = .empty)
    (truthful : Truthful contents events session) :
    Transparent events session ∧
      ∀ changedAt turns (threads : ProbeCache.Threads α),
        ProbeCache.Threads.after changedAt turns = some threads → threads.cache.OnePerPath := by
  have knows : session.cache.Knows contents := fresh ▸ ProbeCache.knows_empty
  have unchanged : { session with cache := .empty } = session := by rw [← fresh]
  constructor
  · rcases runs_alike truthful knows session.reads with ⟨reads, same, knowsBehind⟩
    rw [unchanged] at same
    constructor
    · rw [same]
    · exact ⟨reads, congrArg Prod.snd same⟩
    · rintro earlier template mode context run rest rfl
      rcases runs_alike truthful.initial knows session.reads with ⟨_, _, knowsMiddle⟩
      have hold := truthful earlier template mode context run rest rfl
      have alike := alike_empty knowsMiddle hold (runs id earlier session).2.reads
      exact (carries_pass template mode context run _ _ alike).1
    · exact knowsBehind.one
  · intro changedAt turns threads reached
    exact (ProbeCache.Threads.manned_of_run (ProbeCache.Threads.manned_idle changedAt) reached).one

/-! ## A run -/

/-- Whether every file holds what it should can be evaluated. -/
theorem truthful_of_inits
    (hold : ∀ earlier ∈ events.inits, ∀ file ∈ (runs id earlier session).2.files,
      file.2.media.getD .blank = contents.held ⟨file.1, file.2.time⟩) :
    Truthful contents events session := by
  rintro earlier template mode context run rest rfl found _ source _ entry stored
  rcases List.lookup_eq_some_iff.mp stored with ⟨before, after, files, _⟩
  have isInitial : earlier ∈ (earlier ++ .pass template mode context run :: rest).inits :=
    (List.mem_inits _ _).mpr (List.prefix_append _ _)
  apply hold earlier isInitial ((Path.ofText source).resolve.toText, entry)
  rw [files]
  exact List.mem_append_right before List.mem_cons_self

deriving instance DecidableEq for MediaFile

/-- A template with one clip. -/
def watchedTemplate : Value ℚ :=
  .map
    [(.text "clips", .list [.map [(.text "id", .text "a"), (.text "file", .text "a.mp4")]]),
      (.text "timeline", .map [(.number 0, .list [.list [.text "a"]])]),
      (.text "preview", .number 1)]

/-- The source of the clip, which is broken when it is changed. -/
def watchedContents : Contents ℚ where
  held key :=
    if key.path = "/p/a.mp4" then
      if key.changedAt = 1 then ⟨some (640, 360), some 30, some 10, none, none⟩
      else { MediaFile.blank with failure := some (.file, "broken") }
    else .blank
  same left right same := by rw [ProbeCache.same_iff.mp same]

/-- The file of the source at a time. -/
def watchedSource (time : ℚ) : FileEntry ℚ :=
  { FileEntry.blank with
    changedAt := some time, media := some (watchedContents.held ⟨"/p/a.mp4", time⟩) }

def watchedSession : Session ℚ :=
  .ofFiles
    [("/p/t.yaml", { FileEntry.blank with changedAt := some 1, template := some watchedTemplate }),
      ("/p/a.mp4", watchedSource 1)]

def watchedPass : Event ℚ :=
  .pass (.ofText "/p/t.yaml") .video ⟨.ofText "/out", true, false⟩ true

/-- Two passes on the same source, one on the broken source, and one without it. -/
def watchedRun : List (Event ℚ) :=
  [watchedPass, watchedPass, .change (.update "/p/a.mp4" (watchedSource 2)), watchedPass,
    .change (.delete "/p/a.mp4"), watchedPass]

/-- The second pass reads nothing, and the last two fail. -/
theorem transparent_watchedRun :
    let _ : Analytic ℚ := ⟨fun _ => 0, fun _ => 1, fun x _ => x⟩
    watchedSession.cache = .empty ∧ Truthful watchedContents watchedRun watchedSession ∧
      Transparent watchedRun watchedSession ∧
      (runs id watchedRun watchedSession).1.map Except.toBool = [true, true, false, false] ∧
      (runs id watchedRun watchedSession).2.reads = ["/p/a.mp4", "/p/a.mp4"] := by
  intro _
  have truthful : Truthful watchedContents watchedRun watchedSession :=
    truthful_of_inits (by decide +kernel)
  refine ⟨rfl, truthful, (transparent_of_truthful rfl truthful).1, ?_, ?_⟩
  · decide +kernel
  · decide +kernel

end Montage.Render
