import Montage.Proofs.Machine.Program
import Montage.Proofs.Media.Cache.Entries
import Montage.Proofs.Path

/-!
# Probing with a cache

Suppose that what a media file holds depends on its path and the time of its last change
alone.  Then a probe comes to the same with every cache whose entries are probes of that
kind, and adds to the cache nothing but another one.
-/

namespace Montage

variable {α : Type}

theorem Files.entry?_resolve (files : Files α) (text : String) :
    files.entry? (Path.ofText text).resolve = files.entry? (Path.ofText text) := by
  rw [Files.entry?, Path.resolve_resolve, Files.entry?]

variable [Scalar α]

/-! ## What media files hold -/

/-- What the media files hold at any time, which is the same under keys that are the same. -/
structure Contents (α : Type) [Scalar α] where
  held : ProbeKey α → MediaFile α
  same : ∀ left right : ProbeKey α, left.same right = true → held left = held right

variable {contents : Contents α}

/-- A file holds what it should at its path and time, if it is there. -/
def Files.HoldsAt (files : Files α) (contents : Contents α) (path : Path) : Prop :=
  ∀ entry, files.entry? path = some entry →
    entry.media.getD .blank = contents.held ⟨path.resolve.toText, entry.time⟩

/-- What a probe of a file comes to that has been changed at a certain time. -/
def Contents.probed (contents : Contents α) (key : ProbeKey α) : Result α (MediaInfo α) :=
  Probe.read (Probe.kindOf (.ofText key.path)) (.ofText key.path) (contents.held key)

theorem Contents.probed_eq {left right : ProbeKey α} (same : left.same right = true) :
    contents.probed left = contents.probed right := by
  rw [probed, probed, contents.same left right same, ProbeKey.path_eq_of_same same]

namespace ProbeCache

variable {cache : ProbeCache α} {key : ProbeKey α} {flight : ℕ}

/-- Every entry is the probe of a file, and no path has two. -/
structure Knows (cache : ProbeCache α) (contents : Contents α) : Prop where
  probed : ∀ entry ∈ cache.entries, cache.result? entry.2 = some (contents.probed entry.1)
  one : cache.OnePerPath

theorem knows_empty : (empty : ProbeCache α).Knows contents :=
  ⟨List.forall_mem_nil _, onePerPath_empty⟩

/-- What is found under a key is the probe of that key. -/
theorem Knows.result?_of_flight? (knows : cache.Knows contents)
    (stored : cache.flight? key = some flight) :
    cache.result? flight = some (contents.probed key) := by
  rcases exists_mem_of_flight? stored with ⟨under, member, same⟩
  rw [knows.probed _ member, Contents.probed_eq same]

/-- A probe of one's own is one more entry, or none if it has failed. -/
theorem Knows.settle (knows : cache.Knows contents) (key : ProbeKey α) :
    ((cache.launch key none).settle key cache.flights.length (contents.probed key)).Knows
      contents := by
  constructor
  · intro entry member
    rw [result?_eq_some_iff, flights_settle, flights_launch]
    rcases mem_launch.mp (mem_settle.mp member).1 with ⟨earlier, _⟩ | rfl
    · have ended := result?_eq_some_iff.mp (knows.probed entry earlier)
      have begun := (List.getElem?_eq_some_iff.mp ended).choose
      rwa [List.getElem?_set_ne (Nat.ne_of_gt begun), List.getElem?_append_left begun]
    · exact List.getElem?_set_self (by simp)
  · exact knows.one.launch.settle

end ProbeCache

namespace Program

variable {session : Session α} {text : String}

/-! ## Single probes -/

theorem outcome_probeKey_of_found {path : Path} {entry : FileEntry α}
    (found : session.files.entry? path.resolve = some entry) :
    (probeKey path).outcome session = (.ok ⟨path.resolve.toText, entry.time⟩, session) := by
  rw [probeKey, outcome_get_bind, found]
  rfl

theorem outcome_probeKey_of_missing {path : Path}
    (missing : session.files.entry? path.resolve = none) :
    (probeKey path).outcome session =
      (.error (.probe (.notFound path.resolve.toText)), session) := by
  rw [probeKey, outcome_get_bind, missing]
  rfl

/-- A probe reads the file, and does no more than note that. -/
theorem outcome_readSource {path : Path} (found : session.files.holds path = true) :
    (readSource path).outcome session =
      (Probe.file session.files path,
        { session with reads := session.reads ++ [path.resolve.toText] }) := by
  simp only [readSource, outcome_get_bind, found]
  rfl

theorem outcome_carryOut (session : Session α) (key : ProbeKey α) (flight : ℕ)
    (found : session.files.holds (.ofText key.path) = true) :
    (carryOut key flight).outcome session =
      (Probe.file session.files (.ofText key.path),
        { session with
          cache := session.cache.settle key flight (Probe.file session.files (.ofText key.path))
          reads := session.reads ++ [(Path.ofText key.path).resolve.toText] }) := by
  have read : (readSource (.ofText key.path)).attempt.outcome session = _ :=
    congrArg (fun outcome => (Except.ok outcome.1, outcome.2)) (outcome_readSource found)
  rw [carryOut, outcome_bind_of_ok read]
  rfl

theorem outcome_request {key : ProbeKey α} :
    (request key).outcome session =
      (.ok (session.cache.request key).1,
        { session with cache := (session.cache.request key).2 }) :=
  rfl

/-- What a probe of a file that is there comes to. -/
theorem probe_file_of_holdsAt {entry : FileEntry α}
    (holds : session.files.HoldsAt contents (.ofText text))
    (found : session.files.entry? (.ofText text) = some entry) :
    Probe.file session.files (Path.ofText text).resolve =
      contents.probed ⟨(Path.ofText text).resolve.toText, entry.time⟩ := by
  rw [Contents.probed, Path.ofText_resolve, ← holds entry found, Probe.file,
    Files.entry?_resolve, found]

/-- A probe comes to what the file holds, with every cache that knows the files. -/
theorem outcome_probe (session : Session α) {entry : FileEntry α}
    (holds : session.files.HoldsAt contents (.ofText text))
    (knows : session.cache.Knows contents)
    (found : session.files.entry? (.ofText text) = some entry) :
    ∃ cache reads, (probe (.ofText text)).outcome session =
        (contents.probed ⟨(Path.ofText text).resolve.toText, entry.time⟩,
          { session with cache, reads }) ∧
      cache.Knows contents := by
  generalize isKey : (⟨(Path.ofText text).resolve.toText, entry.time⟩ : ProbeKey α) = key
  have foundResolved := (session.files.entry?_resolve text).trans found
  have looked := outcome_probeKey_of_found foundResolved
  rw [isKey] at looked
  rw [probe, outcome_bind_of_ok looked, outcome_bind_of_ok outcome_request]
  cases stored : session.cache.flight? key with
  | some flight =>
      rw [ProbeCache.request_joins_iff.mpr ⟨stored, rfl⟩]
      refine ⟨session.cache, session.reads, ?_, knows⟩
      exact outcome_await (knows.result?_of_flight? stored)
  | none =>
      rw [ProbeCache.request_owns_iff.mpr ⟨stored, rfl, rfl⟩]
      have spelled : Path.ofText key.path = (Path.ofText text).resolve := by
        rw [← isKey, Path.ofText_resolve]
      have isThere : session.files.holds (Path.ofText key.path) = true := by
        rw [spelled, Files.holds, foundResolved]
        rfl
      have read : Probe.file session.files (Path.ofText key.path) = contents.probed key := by
        rw [spelled, probe_file_of_holdsAt holds found, isKey]
      have carried := outcome_carryOut { session with cache := session.cache.launch key none } key
        session.cache.flights.length isThere
      rw [read] at carried
      exact ⟨_, _, carried, knows.settle key⟩

theorem outcome_probe_of_missing (session : Session α)
    (missing : session.files.entry? (.ofText text) = none) :
    (probe (.ofText text)).outcome session =
      (.error (.probe (.notFound (Path.ofText text).resolve.toText)), session) := by
  have missingResolved := (session.files.entry?_resolve text).trans missing
  rw [probe, outcome_bind_of_error (outcome_probeKey_of_missing missingResolved)]

end Program

/-! ## Probes on sessions that are alike -/

/-- Sessions that differ at most in what is cached and what has been read, with caches that know
the files, and with files of a certain kind. -/
def Session.Alike (contents : Contents α) (kind : Files α → Prop) (first second : Session α) :
    Prop :=
  ∃ cache reads, second = { first with cache, reads } ∧
    (first.cache.Knows contents ∧ cache.Knows contents) ∧ kind first.files

namespace Program

/-- A probe of a file that holds what it should comes to the same on sessions that are alike. -/
theorem carries_probe {kind : Files α → Prop} {text : String}
    (holds : ∀ files, kind files → files.HoldsAt contents (.ofText text)) :
    Carries (Session.Alike contents kind) (Session.Alike contents kind) (probe (.ofText text)) := by
  rintro first _ ⟨cache, reads, rfl, ⟨knows, othersKnow⟩, isKind⟩
  have holdsHere := holds first.files isKind
  cases found : first.files.entry? (Path.ofText text) with
  | none =>
      rw [outcome_probe_of_missing first found,
        outcome_probe_of_missing { first with cache, reads } found]
      exact ⟨rfl, cache, reads, rfl, ⟨knows, othersKnow⟩, isKind⟩
  | some entry =>
      rcases outcome_probe first holdsHere knows found with
        ⟨firstCache, firstReads, firstProbe, firstKnows⟩
      rcases outcome_probe { first with cache, reads } holdsHere othersKnow found with
        ⟨secondCache, secondReads, secondProbe, secondKnows⟩
      rw [firstProbe, secondProbe]
      exact ⟨rfl, secondCache, secondReads, rfl, ⟨firstKnows, secondKnows⟩, isKind⟩

/-- What touches neither files, cache nor the list of files read keeps sessions alike. -/
theorem carries_aside {kind : Files α → Prop} {change : Session α → Session α}
    (aside : ∀ session cache reads,
      change { session with cache, reads } = { change session with cache, reads })
    (kept : ∀ session, (change session).files = session.files ∧
      (change session).cache = session.cache) :
    Carries (Session.Alike contents kind) (Session.Alike contents kind)
      (modify change : Program α Unit) := by
  apply Carries.change
  rintro first _ ⟨cache, reads, rfl, knows, isKind⟩
  obtain ⟨filesKept, cacheKept⟩ := kept first
  exact ⟨cache, reads, aside first cache reads, cacheKept.symm ▸ knows, filesKept.symm ▸ isKind⟩

theorem carries_print {kind : Files α → Prop} (text : String) :
    Carries (Session.Alike contents kind) (Session.Alike contents kind) (print text) :=
  carries_aside (fun _ _ _ => rfl) fun _ => ⟨rfl, rfl⟩

theorem carries_probeClips {kind : Files α → Prop} {clips : List (Clip α)}
    (hold : ∀ files, kind files → ∀ file ∈ FanOut.files clips,
      files.HoldsAt contents (.ofText file)) (quiet : Bool) :
    Carries (Session.Alike contents kind) (Session.Alike contents kind)
      (probeClips clips quiet) := by
  have probes : ∀ file ∈ FanOut.files clips,
      Carries (Session.Alike contents kind) (Session.Alike contents kind) (do
        return (file, ← (probe (.ofText file)).attempt)) := by
    intro file member
    have probed := carries_probe fun files isKind => hold files isKind file member
    exact probed.attempt.andThen fun _ => Carries.pure _
  apply (Carries.mapM probes).andThen
  intro probed
  apply Carries.onlyIf
  · exact (Carries.forM (fun _ => carries_print _) _).andThen fun _ => Carries.ofResult _
  · exact Carries.ofResult _

end Program

end Montage
