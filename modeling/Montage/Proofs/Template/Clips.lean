import Montage.Proofs.Unit
import Montage.Template.Reading
import Montage.Timeline.Timing

/-!
# The clips of a template that is read

Every clip of a template comes from a value that has passed the checks of its fields.  A speed
is kept as the text that it is written as, and read again wherever it is needed; this file
shows that it then is the share that has been checked, so that it is positive.
-/

namespace Montage.Template

section Reading

variable {α : Type} [Scalar α] {directory : Path} {clip : Clip α} {clips : List (Clip α)}

/-- At most one of the ends of a trim is given. -/
theorem exclusive_of_checkTrim {id : String} {trim : Trim α}
    (checked : checkTrim id trim = .ok ()) :
    (trim.ending.isGiven = true → trim.stop.isGiven = false) ∧
      (trim.ending.isGiven = true → trim.stopAtOutput.isGiven = false) ∧
      (trim.stop.isGiven = true → trim.stopAtOutput.isGiven = false) := by
  have few : ¬(exclusiveTrims trim).length > 1 := by
    intro several
    rw [checkTrim, if_pos several] at checked
    cases checked
  cases ending : trim.ending.isGiven <;> cases stop : trim.stop.isGiven <;>
    cases stopAtOutput : trim.stopAtOutput.isGiven <;>
    simp [exclusiveTrims, ending, stop, stopAtOutput] at few ⊢

/-- Every clip that is read comes from one of the values. -/
theorem exists_readClip_of_mem {values : List (Value α)} {index : ℕ} {known : List String}
    (read : readClipsFrom directory index known values = .ok clips) (member : clip ∈ clips) :
    ∃ index value, value ∈ values ∧ readClip directory index value = .ok clip := by
  induction values generalizing index known clips with
  | nil =>
      cases read
      contradiction
  | cons value values ih =>
      simp only [readClipsFrom, Result.bind_eq_ok_iff] at read
      rcases read with ⟨first, firstRead, rest⟩
      obtain ⟨_, rest⟩ := Result.refused_eq_ok_iff.mp rest
      simp only [Result.bind_eq_ok_iff, Result.pure_eq_ok_iff] at rest
      rcases rest with ⟨others, othersRead, rfl⟩
      rcases List.mem_cons.mp member with rfl | member
      · exact ⟨index, value, List.mem_cons_self, firstRead⟩
      · obtain ⟨place, other, otherMem, otherRead⟩ := ih othersRead member
        exact ⟨place, other, List.mem_cons_of_mem value otherMem, otherRead⟩

/-- The parts of a template that is read have been read themselves. -/
theorem parts_of_read {value : Value α} {template : Template α}
    (accepted : Template.read directory value = .ok template) :
    readClips directory (value.get "clips") = .ok template.clips ∧
      readSize template.clips (value.get "size") = .ok template.size ∧
      readTimeline template.clips (value.get "timeline") = .ok template.timeline := by
  simp only [Template.read, Result.bind_eq_ok_iff, Result.pure_eq_ok_iff] at accepted
  rcases accepted with ⟨clips, clipsRead, size, sizeRead, timeline, timelineRead, _, _, rfl⟩
  exact ⟨clipsRead, sizeRead, timelineRead⟩

/-- Every clip of a template that is read has been read itself. -/
theorem exists_readClip {value : Value α} {template : Template α}
    (accepted : Template.read directory value = .ok template) (member : clip ∈ template.clips) :
    ∃ index value, readClip directory index value = .ok clip := by
  obtain ⟨clipsRead, _⟩ := parts_of_read accepted
  simp only [readClips] at clipsRead
  split at clipsRead
  · obtain ⟨index, value, _, read⟩ := exists_readClip_of_mem clipsRead member
    exact ⟨index, value, read⟩
  · cases clipsRead

omit [Scalar α] in
/-- A clip that is found by its id is one of the clips of the template. -/
theorem mem_clips_of_clip {template : Template α} {id : String}
    (found : template.clip id = .ok clip) : clip ∈ template.clips := by
  cases listed : clip? id template.clips with
  | none =>
      rw [Template.clip, listed] at found
      cases found
  | some other =>
      rw [Template.clip, listed] at found
      cases found
      exact List.mem_of_find?_eq_some listed

/-- Clips that are read have distinct ids, and none of those that are known before. -/
theorem nodup_ids_of_readClipsFrom {values : List (Value α)} {index : ℕ} {known : List String}
    (read : readClipsFrom directory index known values = .ok clips) :
    (clips.map Clip.id).Nodup ∧ ∀ clip ∈ clips, clip.id ∉ known := by
  induction values generalizing index known clips with
  | nil =>
      cases read
      simp
  | cons value values ih =>
      simp only [readClipsFrom, Result.bind_eq_ok_iff] at read
      rcases read with ⟨first, _, rest⟩
      obtain ⟨fresh, rest⟩ := Result.refused_eq_ok_iff.mp rest
      simp only [Result.bind_eq_ok_iff, Result.pure_eq_ok_iff] at rest
      rcases rest with ⟨others, othersRead, rfl⟩
      obtain ⟨distinct, othersFresh⟩ := ih othersRead
      refine ⟨List.nodup_cons.mpr ⟨?_, distinct⟩, List.forall_mem_cons.mpr ⟨?_, ?_⟩⟩
      · intro repeated
        obtain ⟨clip, member, same⟩ := List.mem_map.mp repeated
        exact othersFresh clip member (same ▸ List.mem_cons_self)
      · simpa using fresh
      · exact fun clip member inKnown => othersFresh clip member (List.mem_cons_of_mem _ inKnown)

/-- The clips of a template that is read have distinct ids. -/
theorem nodup_ids {value : Value α} {template : Template α}
    (accepted : Template.read directory value = .ok template) :
    (template.clips.map Clip.id).Nodup := by
  obtain ⟨clipsRead, _⟩ := parts_of_read accepted
  simp only [readClips] at clipsRead
  split at clipsRead
  · exact (nodup_ids_of_readClipsFrom clipsRead).1
  · cases clipsRead

omit [Scalar α] in
/-- Where ids are distinct, every clip is found by its own. -/
theorem clip?_of_mem (distinct : (clips.map Clip.id).Nodup) (member : clip ∈ clips) :
    clip? clip.id clips = some clip := by
  induction clips with
  | nil => contradiction
  | cons first rest ih =>
      rw [List.map_cons, List.nodup_cons] at distinct
      rcases List.mem_cons.mp member with rfl | member
      · simp [clip?]
      · have differs : first.id ≠ clip.id :=
          fun same => distinct.1 (same ▸ List.mem_map_of_mem member)
        rw [clip?, List.find?_cons_of_neg (by simpa using differs)]
        exact ih distinct.2 member

omit [Scalar α] in
theorem clip_of_mem {template : Template α} (distinct : (template.clips.map Clip.id).Nodup)
    (member : clip ∈ template.clips) : template.clip clip.id = .ok clip := by
  rw [Template.clip, clip?_of_mem distinct member]
  rfl

/-- The speed of a clip that is read has been checked. -/
theorem exists_speed_of_readClip {index : ℕ} {value : Value α}
    (read : readClip directory index value = .ok clip) :
    ∃ owner, ∃ written : Value α, speed owner written = .ok clip.speed := by
  cases value with
  | map entries =>
      rcases Result.bind_eq_ok_iff.mp read with ⟨_, _, read⟩
      obtain ⟨_, read⟩ := Result.refused_eq_ok_iff.mp read
      rcases Result.bind_eq_ok_iff.mp read with ⟨_, _, read⟩
      obtain ⟨_, read⟩ := Result.refused_eq_ok_iff.mp read
      simp only [Result.bind_eq_ok_iff] at read
      rcases read with ⟨_, _, _, _, _, _, _, _, kept, speedRead, _, _, _, _, read⟩
      -- the source is a file or a text, and the speed is the same for both
      have speed_eq : clip.speed = kept := by
        split at read <;> simp only [Result.bind_eq_ok_iff, Result.pure_eq_ok_iff] at read
        · rcases read with ⟨_, _, _, _, rfl⟩
          rfl
        · rcases read with ⟨_, _, _, _, _, _, rfl⟩
          rfl
      rw [speed_eq]
      exact ⟨_, _, speedRead⟩
  | _ => cases read

/-- A value that is a share is the text that it is written as. -/
theorem eq_text_of_ofValue {value : Value α} {fraction : α}
    (found : Length.ofValue value = .percentage fraction) : ∃ text, value = .text text := by
  cases value with
  | text text => exact ⟨text, rfl⟩
  | _ => cases found

/-- A share is kept as it is written, so that it is the same share when it is read again. -/
theorem share_cases {owner name : String} {check : α → Result α Unit} {value : Value α}
    {kept : Option String} (read : share owner name check value = .ok kept) :
    kept = none ∨ ∃ text fraction, kept = some text ∧
      Length.percentage? (.text text) = .ok fraction ∧ check fraction = .ok () := by
  by_cases absent : value = .null
  · subst absent
    cases read
    exact .inl rfl
  · rw [share.eq_2 owner name check value absent] at read
    simp only [Result.bind_eq_ok_iff, Result.pure_eq_ok_iff] at read
    rcases read with ⟨fraction, resolved, _, checked, rfl⟩
    cases kind : Length.ofValue value with
    | percentage found =>
        rw [Length.resolve, kind] at resolved
        cases resolved
        obtain ⟨text, rfl⟩ := eq_text_of_ofValue kind
        refine .inr ⟨text, fraction, rfl, ?_, checked⟩
        rw [(Length.means_ofValue (.text text)).isReadAs.percentage?_eq, kind]
        rfl
    | _ =>
        rw [Length.resolve, kind] at resolved
        cases resolved

end Reading

/-- The clips of a template that is read have positive speeds. -/
theorem speed_pos {directory : Path} {value : Value ℚ} {template : Template ℚ} {clip : Clip ℚ}
    {factor : ℚ} (accepted : Template.read directory value = .ok template)
    (member : clip ∈ template.clips) (resolved : Timing.factor clip.speed = .ok factor) :
    0 < factor := by
  obtain ⟨_, _, read⟩ := exists_readClip accepted member
  obtain ⟨_, _, speedRead⟩ := exists_speed_of_readClip read
  rcases share_cases speedRead with absent | ⟨text, fraction, written, share, checked⟩
  · rw [absent] at resolved
    cases resolved
    exact one_pos
  · rw [written] at resolved
    cases share.symm.trans resolved
    by_contra refused
    rw [not_lt, ← Scalar.le_rat_iff] at refused
    rw [if_pos refused] at checked
    cases checked

end Montage.Template
