import Montage.Proofs.Machine.Program
import Montage.Proofs.Result

/-!
# Drawing and saving

A file can be saved exactly if all folders on the way to it are there.  No program takes a folder
away or changes the painter, so that what can be saved once can be saved from there on.
-/

namespace Montage

variable {α : Type}

/-! ## Folders on the way to a path -/

/-- On the way to a name in a folder there is that folder, behind those on the way to it. -/
theorem Path.above_concat (root : String) (parts : List String) (name : String) :
    (Path.mk root (parts ++ [name])).above = (Path.mk root parts).above ++ [⟨root, parts⟩] := by
  rw [above, above, List.length_append, List.length_singleton, List.range_succ, List.map_append]
  congr 1
  · refine List.map_congr_left fun count member => ?_
    rw [List.take_append_of_le_length (Nat.le_of_lt (List.mem_range.mp member))]
  · rw [List.map_singleton, List.take_left]

namespace Session

variable {session first second third : Session α} {folder path : Path}

/-- The second session has the painter of the first one and all of its folders. -/
structure Continues (first second : Session α) : Prop where
  painter_eq : second.painter = first.painter
  folders : ∀ name, first.folders name = true → second.folders name = true

theorem Continues.refl (session : Session α) : session.Continues session :=
  ⟨rfl, fun _ => id⟩

theorem Continues.trans (before : first.Continues second) (behind : second.Continues third) :
    first.Continues third :=
  ⟨behind.painter_eq.trans before.painter_eq,
    fun name isThere => behind.folders name (before.folders name isThere)⟩

theorem Continues.reaches (continues : first.Continues second)
    (reached : first.reaches path = true) : second.reaches path = true := by
  rw [Session.reaches, List.all_eq_true] at reached ⊢
  exact fun folder member => continues.folders _ (reached folder member)

theorem continues_withFolder (session : Session α) (folder : Path) :
    session.Continues (session.withFolder folder) :=
  ⟨rfl, fun _ isThere => Bool.or_eq_true_iff.mpr (.inl isThere)⟩

/-- Once a folder has been made, a path can be reached if nothing but that folder and those on
the way to it lead there. -/
theorem reaches_withFolder (within : ∀ way ∈ path.above, way ∈ folder :: folder.above) :
    (session.withFolder folder).reaches path = true := by
  rw [reaches, List.all_eq_true]
  intro way member
  have made : ((folder :: folder.above).any fun made =>
      made.resolve.toText == way.resolve.toText) = true :=
    List.any_eq_true.mpr ⟨way, within way member, beq_self_eq_true _⟩
  exact Bool.or_eq_true_iff.mpr (.inr made)

end Session

namespace Program

variable {session behind : Session α}

/-! ## Drawing -/

theorem outcome_draw_eq_ok_iff {call : Result α (DrawCall α)} {made : DrawCall α} :
    (draw call).outcome session = (.ok made, behind) ↔
      call = .ok made ∧ { session with drawn := session.drawn ++ [made] } = behind := by
  rw [draw, outcome_bind_eq_ok_iff]
  simp only [outcome_ofResult_eq_ok_iff]
  constructor
  · rintro ⟨found, _, ⟨rfl, rfl⟩, finished⟩
    cases finished
    exact ⟨rfl, rfl⟩
  · rintro ⟨rfl, rfl⟩
    exact ⟨made, session, ⟨rfl, rfl⟩, rfl⟩

/-- Calls are drawn one after another if all of them can be made. -/
theorem outcome_draws_eq_ok_iff {calls : List (Result α (DrawCall α))}
    {made : List (DrawCall α)} :
    (calls.mapM draw).outcome session = (.ok made, behind) ↔
      calls = made.map .ok ∧ { session with drawn := session.drawn ++ made } = behind := by
  induction calls generalizing session behind made with
  | nil =>
      rw [List.mapM_nil, outcome_pure_eq_ok_iff]
      constructor
      · rintro ⟨rfl, rfl⟩
        simp
      · rintro ⟨none, rfl⟩
        cases made with
        | nil => simp
        | cons => cases none
  | cons call calls ih =>
      simp only [List.mapM_cons, outcome_bind_eq_ok_iff, outcome_draw_eq_ok_iff, ih,
        outcome_pure_eq_ok_iff]
      constructor
      · rintro ⟨first, _, ⟨rfl, rfl⟩, others, _, ⟨rfl, rfl⟩, rfl, rfl⟩
        simp
      · rintro ⟨all, rfl⟩
        cases made with
        | nil => cases all
        | cons first others =>
            rw [List.map_cons, List.cons.injEq] at all
            exact ⟨first, _, ⟨all.1, rfl⟩, others, _, ⟨all.2, rfl⟩, rfl, by simp⟩

/-! ## Saving -/

/-- The next time is taken, if there is one. -/
theorem outcome_stamp (session : Session α) :
    stamp.outcome session =
      (.ok session.stamps.head?, { session with stamps := session.stamps.tail }) := by
  rw [stamp, outcome_get_bind]
  rcases session with ⟨_, _, _, _, _ | ⟨time, rest⟩, _, _, _, _, _, _, _, _⟩ <;> rfl

/-- A file is saved with the next time if there is a folder for it. -/
theorem outcome_save (session : Session α) (path : Path) (entry : FileEntry α) :
    (save path entry).outcome session =
      if session.reaches path then
        (.ok (), { session with
          stamps := session.stamps.tail
          files := session.files.replace path { entry with changedAt := session.stamps.head? } })
      else (.error (.noSuchFile path.toText), session) := by
  rw [save, outcome_get_bind]
  split
  · rw [outcome_bind_of_ok (outcome_stamp session)]
    rfl
  · rfl

theorem outcome_save_eq_ok_iff {path : Path} {entry : FileEntry α} :
    (save path entry).outcome session = (.ok (), behind) ↔
      session.reaches path = true ∧
        { session with
          stamps := session.stamps.tail
          files := session.files.replace path
            { entry with changedAt := session.stamps.head? } } = behind := by
  rw [outcome_save]
  split <;> simp_all

end Program

end Montage
