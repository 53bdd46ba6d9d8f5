import Montage.Proofs.Machine.Probing
import Montage.Render.Basic

/-!
# The cache does not show

Only probing looks at the cache, and the rest of a pass neither sees nor changes it.  So a
pass comes to the same with every cache that knows the files, and a run of many passes, with
changes of files between them, comes to the same with one cache for all of them as with a new
one for each.
-/

namespace Montage

variable {α : Type} [Scalar α] {contents : Contents α} {kind : Files α → Prop}

theorem Session.Alike.weaken {first second : Session α}
    (alike : Session.Alike contents kind first second) :
    Session.Alike contents (fun _ => True) first second := by
  rcases alike with ⟨cache, reads, same, knows, _⟩
  exact ⟨cache, reads, same, knows, trivial⟩

namespace Program

/-! ## Steps of a pass -/

theorem carries_now :
    Carries (Session.Alike contents kind) (Session.Alike contents kind) (now : Program α α) := by
  rintro first _ ⟨cache, reads, rfl, knows, isKind⟩
  simp only [now, outcome_get_bind]
  split
  · exact ⟨rfl, cache, reads, rfl, knows, isKind⟩
  · exact ⟨rfl, cache, reads, rfl, knows, isKind⟩

theorem carries_stamp :
    Carries (Session.Alike contents kind) (Session.Alike contents kind)
      (stamp : Program α (Option α)) := by
  rintro first _ ⟨cache, reads, rfl, knows, isKind⟩
  simp only [stamp, outcome_get_bind]
  split
  · exact ⟨rfl, cache, reads, rfl, knows, isKind⟩
  · exact ⟨rfl, cache, reads, rfl, knows, isKind⟩

theorem carries_makeFolder (folder : Path) :
    Carries (Session.Alike contents kind) (Session.Alike contents kind)
      (makeFolder folder : Program α Unit) :=
  carries_aside (fun _ _ _ => rfl) fun _ => ⟨rfl, rfl⟩

theorem carries_changeFiles (change : Files α → Files α) :
    Carries (Session.Alike contents fun _ => True) (Session.Alike contents fun _ => True)
      (changeFiles change) := by
  apply Carries.change
  rintro first _ ⟨cache, reads, rfl, knows, _⟩
  exact ⟨cache, reads, rfl, knows, trivial⟩

theorem carries_write (path : Path) (text : String) (mode : Option String) :
    Carries (Session.Alike contents fun _ => True) (Session.Alike contents fun _ => True)
      (write path text mode : Program α Unit) :=
  (carries_makeFolder _).andThen fun _ => carries_stamp.andThen fun _ => carries_changeFiles _

theorem carries_save (path : Path) (entry : FileEntry α) :
    Carries (Session.Alike contents fun _ => True) (Session.Alike contents fun _ => True)
      (save path entry) := by
  apply Carries.read
  · rintro first _ ⟨cache, reads, rfl, _⟩
    rfl
  · intro session
    apply Carries.onlyIf
    · exact carries_stamp.andThen fun _ => carries_changeFiles _
    · exact Carries.ofResult _

theorem carries_draw (call : Result α (DrawCall α)) :
    Carries (Session.Alike contents kind) (Session.Alike contents kind) (draw call) := by
  apply (Carries.ofResult call).andThen
  intro call
  apply Carries.andThen
  · exact carries_aside (fun _ _ _ => rfl) fun _ => ⟨rfl, rfl⟩
  · exact fun _ => Carries.pure call

theorem carries_encode (words : List Word) :
    Carries (Session.Alike contents kind) (Session.Alike contents kind)
      (encode words : Program α Unit) := by
  apply Carries.andThen
  · exact carries_aside (fun _ _ _ => rfl) fun _ => ⟨rfl, rfl⟩
  · intro _
    apply Carries.read
    · rintro first _ ⟨cache, reads, rfl, _⟩
      rfl
    · exact fun session => Carries.ofResult session.encoder.check

end Program

namespace TextAsset

open Program

theorem carries_paint (output : Path) (id content : String) (font : Font α)
    (width : Option Int) :
    Carries (Session.Alike contents fun _ => True) (Session.Alike contents fun _ => True)
      (paint output id content font width) := by
  apply Carries.read
  · rintro first _ ⟨cache, reads, rfl, _⟩
    rfl
  · intro session
    apply (Carries.ofResult _).andThen
    intro image
    apply (Carries.mapM fun call _ => carries_draw call).andThen
    intro calls
    apply (carries_makeFolder _).andThen
    intro _
    exact (carries_save _ _).andThen fun _ => Carries.pure _

theorem carries_convert (canvas : Extent) (output : Path) (quiet : Bool) (clip : Clip α) :
    Carries (Session.Alike contents fun _ => True) (Session.Alike contents fun _ => True)
      (convert canvas output quiet clip) := by
  rw [convert]
  split
  · apply (Carries.ofResult _).andThen
    intro width
    apply (carries_paint _ _ _ _ _).andThen
    intro size
    have rest : ∀ file content font,
        Carries (Session.Alike contents fun _ => True) (Session.Alike contents fun _ => True)
          (do
            let info ← ofResult
              (MediaInfo.image (Scalar.ofInt size.width) (Scalar.ofInt size.height))
            return ({ clip with source := .drawn file content font }, [(clip.id, info)]) :
              Program α (Clip α × MediaMap α)) :=
      fun _ _ _ => (Carries.ofResult _).andThen fun _ => Carries.pure _
    apply Carries.onlyIf
    · exact (carries_print _).andThen fun _ => rest _ _ _
    · exact rest _ _ _
  · exact Carries.pure _

theorem carries_convertAll (canvas : Extent) (output : Path) (quiet : Bool)
    (template : Template α) :
    Carries (Session.Alike contents fun _ => True) (Session.Alike contents fun _ => True)
      (convertAll canvas output quiet template) :=
  (Carries.mapM fun clip _ => carries_convert canvas output quiet clip).andThen
    fun _ => Carries.pure _

end TextAsset

namespace Render

open Program

theorem carries_log (context : RenderContext) (line : String) :
    Carries (Session.Alike contents kind) (Session.Alike contents kind)
      (log context line : Program α Unit) := by
  apply Carries.onlyIf
  · exact carries_print _
  · exact Carries.pure _

/-- The template that a file spells. -/
def loaded (files : Files α) (file : Path) : Result α (Template α) :=
  match files.entry? file with
  | some entry => Template.load file (entry.template.getD .null)
  | none => .error (.noSuchFile file.toText)

theorem outcome_loadTemplate (session : Session α) (file : Path) :
    (loadTemplate file).outcome session = (loaded session.files file, session) := by
  rw [loadTemplate, outcome_get_bind, loaded]
  cases session.files.entry? file <;> rfl

/-- The sources of a template hold what they should. -/
def SourcesHold (contents : Contents α) (template : Path) (files : Files α) : Prop :=
  ∀ found, loaded files template = .ok found →
    ∀ file ∈ FanOut.files found.clips, files.HoldsAt contents (.ofText file)

/-- A session with a cache that knows the files is like the one with an empty cache. -/
theorem alike_empty {template : Path} (knows : session.cache.Knows contents)
    (hold : SourcesHold contents template session.files) (reads : List String) :
    Session.Alike contents (SourcesHold contents template) session
      { session with cache := .empty, reads } :=
  ⟨.empty, reads, rfl, ⟨knows, ProbeCache.knows_empty⟩, hold⟩

theorem carries_saveScript (file : Path) (words : List Word) :
    Carries (Session.Alike contents fun _ => True) (Session.Alike contents fun _ => True)
      (saveScript file words : Program α Unit) :=
  carries_write _ _ _

theorem carries_execute (context : RenderContext) (rendering : Rendering α) (started : α) :
    Carries (Session.Alike contents fun _ => True) (Session.Alike contents fun _ => True)
      (execute context rendering started) := by
  apply (Carries.ofResult _).andThen
  intro length
  apply (carries_log _ _).andThen
  intro _
  apply (carries_encode _).andThen
  intro _
  apply carries_now.andThen
  intro ended
  exact (Carries.ofResult _).andThen fun _ => carries_log _ _

variable [Analytic α]

/-- Up to the probes the files are as they were; from there on they may change. -/
theorem carries_compile (template : Path) (mode : RenderMode α) (context : RenderContext) :
    Carries (Session.Alike contents (SourcesHold contents template))
      (Session.Alike contents fun _ => True) (compile template mode context) := by
  apply Carries.bindLook (fun session => outcome_loadTemplate session template)
  · rintro first _ ⟨cache, reads, rfl, _⟩
    rfl
  · intro found
    have sources : ∀ left right : Session α,
        Session.Alike contents (SourcesHold contents template) left right ∧
          loaded left.files template = .ok found →
        Session.Alike contents (fun files => ∀ file ∈ FanOut.files found.clips,
          files.HoldsAt contents (.ofText file)) left right := by
      rintro left _ ⟨⟨cache, reads, rfl, knows, hold⟩, isLoaded⟩
      exact ⟨cache, reads, rfl, knows, hold found isLoaded⟩
    apply Carries.narrow _ sources
    apply Carries.read
    · rintro first _ ⟨cache, reads, rfl, _⟩
      rfl
    intro session
    apply (Carries.ofResult _).bind _ fun _ _ alike => alike.weaken
    intro _
    apply (carries_probeClips (fun _ hold => hold) _).bind _ fun _ _ alike => alike.weaken
    intro infos
    apply Carries.narrow _ fun _ _ alike => alike.weaken
    apply (Carries.ofResult _).andThen
    intro canvas
    apply (TextAsset.carries_convertAll _ _ _ _).andThen
    rintro ⟨converted, drawn⟩
    apply (Carries.ofResult _).andThen
    intro plan
    exact (Carries.ofResult _).andThen fun _ => Carries.pure _
  · exact fun _ _ alike => alike.weaken

/-- A pass comes to the same on sessions that are alike, and leaves them alike. -/
theorem carries_pass (template : Path) (mode : RenderMode α) (context : RenderContext)
    (run : Bool) :
    Carries (Session.Alike contents (SourcesHold contents template))
      (Session.Alike contents fun _ => True) (pass template mode context run) := by
  apply carries_now.bind _ fun _ _ alike => alike.weaken
  intro started
  apply (carries_makeFolder _).bind _ fun _ _ alike => alike.weaken
  intro _
  apply (carries_compile _ _ _).bind _ fun _ _ alike => alike
  intro rendering
  have executed : Carries (Session.Alike contents fun _ => True)
      (Session.Alike contents fun _ => True)
      (if run then execute context rendering started >>= fun _ => Pure.pure rendering
        else Pure.pure rendering : Program α (Rendering α)) := by
    apply Carries.onlyIf
    · exact (carries_execute _ _ _).andThen fun _ => Carries.pure _
    · exact Carries.pure _
  apply Carries.onlyIf
  · apply (carries_saveScript _ _).andThen
    intro _
    exact (carries_log _ _).andThen fun _ => executed
  · exact executed

end Render

end Montage
