import Montage.Proofs.Result
import Montage.Template.Fields

/-!
# Changed values

A tree of values is changed under a key, or item by item, and nothing else about it changes.
What is read of a changed mapping is what is read of the mapping itself, changed in the same way.
-/

namespace Montage

variable {α : Type}

namespace Value

/-! ## Changes under a key and of items -/

/-- Changes the values under a text key. -/
def modifyEntries (key : String) (change : Value α → Value α)
    (entries : List (Value α × Value α)) : List (Value α × Value α) :=
  entries.map fun entry => if entry.1.isText key then (entry.1, change entry.2) else entry

/-- Changes the values under a text key of a mapping. -/
def modifyAt (key : String) (change : Value α → Value α) : Value α → Value α
  | map entries => map (modifyEntries key change entries)
  | value => value

/-- Changes all values of a mapping. -/
def modifyAll (change : Value α → Value α) : Value α → Value α
  | map entries => map (entries.map fun entry => (entry.1, change entry.2))
  | value => value

/-- Changes the items of a list. -/
def modifyItems (change : Value α → Value α) : Value α → Value α
  | list items => list (items.map change)
  | value => value

variable {key other : String} {change : Value α → Value α} {entries : List (Value α × Value α)}

theorem isText_of_isText {name : Value α} (isKey : name.isText key = true)
    (differs : other ≠ key) : name.isText other = false := by
  cases name with
  | text s =>
      rw [isText, beq_iff_eq] at isKey
      subst isKey
      simpa [isText] using differs.symm
  | _ => rfl

/-- The value under the key is changed. -/
theorem lookup?_modifyEntries_self :
    lookup? key (modifyEntries key change entries) = (lookup? key entries).map change := by
  induction entries with
  | nil => rfl
  | cons entry rest ih =>
      rw [modifyEntries] at ih ⊢
      cases isKey : entry.1.isText key <;> simp [lookup?, isKey, ih]

/-- Under all other keys the values stay. -/
theorem lookup?_modifyEntries_of_ne (differs : other ≠ key) :
    lookup? other (modifyEntries key change entries) = lookup? other entries := by
  induction entries with
  | nil => rfl
  | cons entry rest ih =>
      rw [modifyEntries] at ih ⊢
      cases isKey : entry.1.isText key with
      | true => simp [lookup?, isKey, isText_of_isText isKey differs, ih]
      | false => simp [lookup?, isKey, ih]

/-- The keys stay. -/
theorem map_fst_modifyEntries :
    (modifyEntries key change entries).map Prod.fst = entries.map Prod.fst := by
  rw [modifyEntries, List.map_map]
  refine List.map_congr_left fun entry _ => ?_
  cases isKey : entry.1.isText key <;> simp [isKey]

theorem get_modifyAt_self (value : Value α) (keepsNull : change null = null) :
    (value.modifyAt key change).get key = change (value.get key) := by
  cases value with
  | map entries =>
      simp only [modifyAt, get, get?, lookup?_modifyEntries_self]
      cases lookup? key entries with
      | none => exact keepsNull.symm
      | some found => rfl
  | _ => exact keepsNull.symm

theorem get?_modifyAt_of_ne (value : Value α) (differs : other ≠ key) :
    (value.modifyAt key change).get? other = value.get? other := by
  cases value with
  | map entries => exact lookup?_modifyEntries_of_ne differs
  | _ => rfl

theorem get_modifyAt_of_ne (value : Value α) (differs : other ≠ key) :
    (value.modifyAt key change).get other = value.get other := by
  rw [get, get?_modifyAt_of_ne value differs, get]

end Value

/-! ## Fields -/

namespace Template

variable [Scalar α]

/-- The fields that are read of a mapping are changed as those of the mapping. -/
theorem fields_modifyAt (names : List String) (owner key : String)
    (change : Value α → Value α) (value : Value α) :
    fields names owner (value.modifyAt key change) =
      Value.modifyEntries key change <$> fields names owner value := by
  cases value with
  | null => rfl
  | map entries =>
      have unknown_eq : Value.unknownKeys names (Value.modifyEntries key change entries) =
          Value.unknownKeys names entries := by
        rw [Value.unknownKeys, Value.map_fst_modifyEntries, Value.unknownKeys]
      rw [Value.modifyAt, fields, fields, unknown_eq]
      cases Value.unknownKeys names entries with
      | nil => rfl
      | cons first others =>
          dsimp only
          cases Value.sortedKeys (first :: others) <;> rfl
  | _ => rfl

/-- The entries that are read of a mapping are its own. -/
theorem lookup?_of_fields {names : List String} {owner key : String} {value : Value α}
    {entries : List (Value α × Value α)} (entriesRead : fields names owner value = .ok entries) :
    Value.lookup? key entries = value.get? key := by
  cases value with
  | null =>
      cases entriesRead
      rfl
  | map listed =>
      rw [fields] at entriesRead
      split at entriesRead
      · cases entriesRead
        rfl
      · obtain ⟨_, _, refused⟩ := Result.bind_eq_ok_iff.mp entriesRead
        cases refused
  | _ => cases entriesRead

end Template

end Montage
