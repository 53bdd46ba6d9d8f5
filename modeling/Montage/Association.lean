/-!
# Associations

An association is a list of keys with values, in which the first entry of a key
counts.  `put` gives a key a value and leaves all other keys alone.
-/

namespace Montage.Association

variable {Key Item : Type} [BEq Key]

/-- Gives a key a value, in place if the key is there. -/
def put (key : Key) (item : Item) : List (Key × Item) → List (Key × Item)
  | [] => [(key, item)]
  | (other, old) :: rest =>
      if other == key then (key, item) :: rest else (other, old) :: put key item rest

variable [LawfulBEq Key]

/-- A key has the value that it has been given. -/
@[simp]
theorem lookup_put_self (key : Key) (item : Item) (entries : List (Key × Item)) :
    (put key item entries).lookup key = some item := by
  induction entries with
  | nil => simp [put]
  | cons entry rest ih =>
      obtain ⟨name, old⟩ := entry
      by_cases same : name = key
      · simp [put, same]
      · simp [put, same, List.lookup_cons, beq_false_of_ne (Ne.symm same), ih]

/-- Other keys have the values that they had. -/
theorem lookup_put_of_ne {key other : Key} (different : other ≠ key) (item : Item)
    (entries : List (Key × Item)) :
    (put key item entries).lookup other = entries.lookup other := by
  induction entries with
  | nil => simp [put, List.lookup_cons, beq_false_of_ne different]
  | cons entry rest ih =>
      obtain ⟨name, old⟩ := entry
      by_cases same : name = key
      · simp [put, same, List.lookup_cons, beq_false_of_ne different]
      · simp [put, same, List.lookup_cons, ih]

end Montage.Association
