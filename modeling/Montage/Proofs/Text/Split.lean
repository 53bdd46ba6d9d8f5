import Mathlib
import Montage.Text.Split

/-!
# Texts are joined from their parts

The parts of a text hold no separator, and joining parts without separators and splitting
are inverse to each other.
-/

namespace Montage.Text

theorem parts_eq_splitOn (separator : Char) (text : List Char) :
    parts separator text = text.splitOn separator := by
  rw [List.splitOn_eq_splitOnP]
  induction text with
  | nil => rfl
  | cons c rest ih =>
      rw [List.splitOnP_cons_eq_if_modifyHead, parts, ih]
      split
      · rfl
      · cases split : rest.splitOnP (fun d => d == separator) with
        | nil => exact absurd split (List.splitOnP_ne_nil _ rest)
        | cons first others => rfl

theorem parts_cons_self (separator : Char) (text : List Char) :
    parts separator (separator :: text) = [] :: parts separator text := by
  simp [parts]

/-- No part holds the separator. -/
theorem not_mem_of_mem_parts {separator : Char} {text part : List Char}
    (member : part ∈ parts separator text) : separator ∉ part := by
  induction text generalizing part with
  | nil =>
      cases List.mem_singleton.mp member
      exact List.not_mem_nil
  | cons c rest ih =>
      rw [parts] at member
      split at member
      · rcases List.mem_cons.mp member with rfl | member
        · exact List.not_mem_nil
        · exact ih member
      · rename_i differs
        rw [beq_iff_eq] at differs
        split at member
        · cases List.mem_singleton.mp member
          simpa [eq_comm] using differs
        · rename_i first others split
          rcases List.mem_cons.mp member with rfl | member
          · have plain : separator ∉ first := ih (by simp [split])
            simpa [plain, eq_comm] using differs
          · exact ih (by simp [split, member])

/-- The parts have no characters of their own. -/
theorem subset_of_mem_parts {separator : Char} {text part : List Char}
    (member : part ∈ parts separator text) : part ⊆ text := by
  induction text generalizing part with
  | nil =>
      cases List.mem_singleton.mp member
      exact List.Subset.refl _
  | cons c rest ih =>
      rw [parts] at member
      split at member
      · rcases List.mem_cons.mp member with rfl | member
        · exact List.nil_subset _
        · exact List.subset_cons_of_subset c (ih member)
      · split at member
        · cases List.mem_singleton.mp member
          exact List.cons_subset_cons c (List.nil_subset rest)
        · rename_i first others split
          rcases List.mem_cons.mp member with rfl | member
          · exact List.cons_subset_cons c (ih (by simp [split]))
          · exact List.subset_cons_of_subset c (ih (by simp [split, member]))

theorem parts_ne_nil (separator : Char) (text : List Char) : parts separator text ≠ [] := by
  rw [parts_eq_splitOn]
  exact List.splitOn_ne_nil separator text

theorem parts_intercalate {separator : Char} {steps : List (List Char)} (nonempty : steps ≠ [])
    (plain : ∀ step ∈ steps, separator ∉ step) :
    parts separator ([separator].intercalate steps) = steps := by
  rw [parts_eq_splitOn, List.splitOn_intercalate separator plain nonempty]

/-- One more part is joined behind a separator. -/
theorem intercalate_concat {separator : Char} {steps : List (List Char)} (nonempty : steps ≠ [])
    (last : List Char) :
    [separator].intercalate (steps ++ [last]) =
      [separator].intercalate steps ++ separator :: last := by
  induction steps with
  | nil => contradiction
  | cons first others ih =>
      cases others with
      | nil => simp
      | cons second others =>
          rw [List.cons_append, List.cons_append, List.intercalate_cons_cons,
            List.intercalate_cons_cons, ← List.cons_append, ih (List.cons_ne_nil _ _)]
          simp

/-- A text without a separator is its only part. -/
theorem parts_of_not_mem {separator : Char} {text : List Char} (plain : separator ∉ text) :
    parts separator text = [text] := by
  have split := parts_intercalate (List.cons_ne_nil text []) (List.forall_mem_singleton.mpr plain)
  simpa using split

/-- Behind a text, what holds no separator goes on with the last part. -/
theorem exists_parts_append {separator : Char} (text : List Char) {ending : List Char}
    (plain : separator ∉ ending) :
    ∃ init last, parts separator text = init ++ [last] ∧
      parts separator (text ++ ending) = init ++ [last ++ ending] := by
  induction text with
  | nil => exact ⟨[], [], rfl, parts_of_not_mem plain⟩
  | cons c rest ih =>
      obtain ⟨init, last, split, splitLonger⟩ := ih
      rw [List.cons_append, parts, parts, split, splitLonger]
      split
      · exact ⟨[] :: init, last, rfl, rfl⟩
      · rcases init with _ | ⟨first, others⟩
        · exact ⟨[], c :: last, rfl, rfl⟩
        · exact ⟨(c :: first) :: others, last, rfl, rfl⟩

end Montage.Text
