import Montage.Proofs.Duration.Printing

/-!
# What references lead to

A reference leads to what it stands for: seconds, or an expression in turn.  The text
of that expression is one of those in the template, so from the references of an
expression no others are ever reached than these and the ones in the texts of the
template, and those are the references that evaluation starts with.
-/

namespace Montage

variable {α : Type}

/-! ## Texts of a template -/

namespace Value

theorem texts_subset_of_lookup {key : String} {entries : List (Value α × Value α)}
    {found : Value α} (lookedUp : lookup? key entries = some found) :
    found.texts ⊆ entryTexts entries := by
  induction entries with
  | nil => contradiction
  | cons entry rest ih =>
      obtain ⟨name, value⟩ := entry
      rw [entryTexts, entryText]
      rw [lookup?] at lookedUp
      split at lookedUp
      · cases lookedUp
        exact List.subset_append_left _ _
      · exact List.Subset.trans (ih lookedUp) (List.subset_append_right _ _)

theorem texts_get_subset (step : String) (value : Value α) :
    (value.get step).texts ⊆ value.texts := by
  rw [get]
  cases entry : value.get? step with
  | none => exact List.nil_subset _
  | some found =>
      cases value with
      | map entries => exact texts_subset_of_lookup entry
      | null | bool _ | number _ | text _ | list _ => contradiction

end Value

variable [Scalar α]

namespace ClipField

/-- A step into a value leads to no other texts. -/
theorem texts_subset_of_stepInto {step : String} {found inner : Value α}
    (stepped : stepInto? step found = some inner) : inner.texts ⊆ found.texts := by
  unfold stepInto? at stepped
  split at stepped
  · obtain ⟨part, -, rfl⟩ := Option.map_eq_some_iff.mp stepped
    exact List.nil_subset _
  · split at stepped
    · contradiction
    · cases stepped
      exact found.texts_get_subset step

theorem texts_subset_of_descend {steps : List String} {found value : Value α}
    (descended : descend steps found = some (.value value)) : value.texts ⊆ found.texts := by
  induction steps generalizing found with
  | nil =>
      cases descended
      exact List.Subset.refl _
  | cons step steps ih =>
      obtain ⟨inner, stepped, descended⟩ := Option.bind_eq_some_iff.mp descended
      exact List.Subset.trans (ih descended) (texts_subset_of_stepInto stepped)

end ClipField

namespace Clip

omit [Scalar α] in
theorem mem_fieldNames {clip : Clip α} {name : String} {found : ClipField α}
    (isField : clip.field? name = some found) : name ∈ fieldNames := by
  unfold field? at isField
  split at isField <;> first | contradiction | simp [fieldNames]

theorem texts_subset_of_fieldAt {clip : Clip α} {steps : List String} {value : Value α}
    (isField : clip.fieldAt? steps = some (.value value)) : value.texts ⊆ clip.texts := by
  unfold fieldAt? at isField
  split at isField
  · contradiction
  · split at isField
    · rename_i step steps _ found named
      have inClip : found.texts ⊆ clip.texts := by
        intro s member
        refine List.mem_flatMap.mpr ⟨step, mem_fieldNames named, ?_⟩
        simpa only [named] using member
      exact List.Subset.trans (ClipField.texts_subset_of_descend isField) inClip
    · split at isField <;> simp at isField
    · contradiction

end Clip

namespace Duration

variable {scope : Scope α} {name : List Char}

theorem fieldValue_eq_text {field : ClipField α} {s : String}
    (isText : fieldValue name field = .ok (.text s)) : field = .value (.text s) := by
  unfold fieldValue at isText
  split at isText <;> simp_all [refuse]

/-- A reference stands for no text but those of the template. -/
theorem mem_texts_of_meaning {s : String} (means : meaning scope name = .ok (.text s)) :
    s ∈ scope.texts := by
  simp only [meaning] at means
  rw [Scope.texts, List.mem_append]
  split at means
  · rename_i value keypoint
    cases means
    split at keypoint
    · exact .inl (Value.texts_subset_of_lookup keypoint (List.mem_singleton_self s))
    · contradiction
  · split at means
    · simp [refuse] at means
    · rename_i clip found
      split at means
      · simp [refuse] at means
      · split at means
        · simp [refuse] at means
        · rename_i field isField
          cases fieldValue_eq_text means
          refine .inr (List.mem_flatMap.mpr ⟨clip, List.mem_of_find?_eq_some found, ?_⟩)
          exact Clip.texts_subset_of_fieldAt isField (List.mem_singleton_self s)

/-! ## Leads -/

/-- What a value holds as a duration: seconds, or an expression. -/
def content : Value α → Result α (α ⊕ Expression)
  | .number x => do return .inl (← Scalar.toReal x)
  | .text s => do return .inr (← read s)
  | value => .error (.input (.duration (.notExpression value)))

/-- What a reference leads to. -/
def lead (scope : Scope α) (name : List Char) : Result α (α ⊕ Expression) :=
  meaning scope name >>= content

omit [Scalar α] in
/-- What is read has the references of its text. -/
theorem references_eq_of_read {s : String} {found : Expression}
    (read : (Duration.read s : Result α Expression) = .ok found) :
    found.references = referencesIn s := by
  simp only [Duration.read] at read
  unfold referencesIn
  split at read <;> simp_all

/-- A value holds an expression exactly if it is a text that is read as one. -/
theorem content_eq_inr_iff {value : Value α} {found : Expression} :
    content value = .ok (.inr found) ↔
      ∃ s, value = .text s ∧ (read s : Result α Expression) = .ok found := by
  cases value <;> simp [content, Result.map_eq_ok_iff]

/-- A value holds seconds exactly if it is a number that can be made real. -/
theorem content_eq_inl_iff {value : Value α} {y : α} :
    content value = .ok (.inl y) ↔ ∃ x, value = .number x ∧ Scalar.toReal x = .ok y := by
  cases value <;> simp [content, Result.map_eq_ok_iff]

theorem lead_of_meaning_text {s : String} (means : meaning scope name = .ok (.text s)) :
    lead scope name = (do return .inr (← read s)) := by
  rw [lead, means]
  rfl

/-- A reference leads to no references but those of the texts of the template. -/
theorem references_subset_of_lead {found : Expression}
    (led : lead scope name = .ok (.inr found)) :
    found.references ⊆ scope.texts.flatMap referencesIn := by
  obtain ⟨value, means, held⟩ := Result.bind_eq_ok_iff.mp led
  obtain ⟨s, rfl, read⟩ := content_eq_inr_iff.mp held
  rw [references_eq_of_read read]
  exact fun other member => List.mem_flatMap.mpr ⟨s, mem_texts_of_meaning means, member⟩

theorem ofValue_eq (value : Value α) :
    ofValue scope value =
      content value >>= Sum.elim pure fun found => evaluate scope (followable scope found) found := by
  cases value <;> simp [ofValue, content]

theorem evaluate_reference {names : List (List Char)} (followed : name ∈ names) :
    evaluate scope names (.reference name) =
      lead scope name >>= Sum.elim pure fun found =>
        evaluate scope (following name names) found := by
  rw [evaluate, dif_pos followed, lead, bind_assoc]
  congr 1
  funext value
  cases value <;> simp [content]

theorem evaluate_reference_cycle {names : List (List Char)} (left : name ∉ names) :
    evaluate scope names (.reference name) = refuse name .cycle := by
  rw [evaluate, dif_neg left]

end Duration
end Montage
