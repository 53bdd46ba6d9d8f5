import Mathlib
import Montage.Fault.Basic

/-!
# Values behind faults

Compiling goes step by step, and every step has a value or a fault.  The theorems of
this file take a step that has a value apart: a step behind another one, a step that
is refused on a condition, a step that only fails with a fault of numbers, and a step
made for every item of a list.
-/

namespace Montage.Result

variable {ε α β : Type}

/-- Two steps have a value exactly when the second has it on the value of the first. -/
theorem bind_eq_ok_iff {first : Except ε α} {next : α → Except ε β} {value : β} :
    (first >>= next) = .ok value ↔
      ∃ middle, first = .ok middle ∧ next middle = .ok value := by
  cases first <;> simp [bind, Except.bind]

theorem map_eq_ok_iff {change : α → β} {step : Except ε α} {value : β} :
    (change <$> step) = .ok value ↔ ∃ found, step = .ok found ∧ change found = value := by
  cases step <;> simp [Functor.map, Except.map]

@[simp]
theorem pure_eq_ok_iff {found value : α} :
    (pure found : Except ε α) = .ok value ↔ found = value := by
  simp [pure, Except.pure]

theorem toOption_eq_some_iff {step : Except ε α} {value : α} :
    step.toOption = some value ↔ step = .ok value := by
  cases step <;> simp [Except.toOption]

/-- A refusal ends every step that it is part of. -/
@[simp]
theorem error_bind (fault : ε) (next : α → Except ε β) :
    ((Except.error fault : Except ε α) >>= next) = .error fault :=
  rfl

@[simp]
theorem ok_bind (value : α) (next : α → Except ε β) :
    ((Except.ok value : Except ε α) >>= next) = next value :=
  rfl

/-- A step that is refused on a condition has a value only without it. -/
theorem refused_eq_ok_iff {condition : Prop} [Decidable condition] {fault : ε}
    {rest : Except ε β} {value : β} :
    (if condition then ((Except.error fault : Except ε α) >>= fun _ => rest) else rest) =
        .ok value ↔
      ¬condition ∧ rest = .ok value := by
  by_cases refused : condition <;> simp [refused]

/-- A computation on numbers keeps its value among the other steps. -/
@[simp]
theorem lift_eq_ok_iff {computed : Except NumberFault β} {value : β} :
    (liftM computed : Result α β) = .ok value ↔ computed = .ok value := by
  cases computed <;> simp [liftM, monadLift, MonadLift.monadLift]

@[simp]
theorem lift_ok (value : β) : (liftM (.ok value : Except NumberFault β) : Result α β) = .ok value :=
  rfl

/-! ## Lists -/

/-- A list of steps has as its values those of its items, in their order. -/
theorem mapM_eq_ok_iff {step : α → Except ε β} {items : List α} {values : List β} :
    items.mapM step = .ok values ↔
      List.Forall₂ (fun item value => step item = .ok value) items values := by
  induction items generalizing values with
  | nil =>
      rw [List.mapM_nil, pure_eq_ok_iff, List.forall₂_nil_left_iff]
      exact eq_comm
  | cons item items ih =>
      simp only [List.mapM_cons, bind_eq_ok_iff, pure_eq_ok_iff, List.forall₂_cons_left_iff, ih]
      constructor
      · rintro ⟨value, stepped, rest, matched, rfl⟩
        exact ⟨value, rest, stepped, matched, rfl⟩
      · rintro ⟨value, rest, stepped, matched, rfl⟩
        exact ⟨value, stepped, rest, matched, rfl⟩

/-- Where lists correspond, each item on the left has one on the right. -/
theorem exists_of_forall₂_of_mem {relation : α → β → Prop} {items : List α} {values : List β}
    (matched : List.Forall₂ relation items values) {item : α} (member : item ∈ items) :
    ∃ value ∈ values, relation item value := by
  induction matched with
  | nil => contradiction
  | @cons first found items values related _ ih =>
      rcases List.mem_cons.mp member with rfl | member
      · exact ⟨found, List.mem_cons_self, related⟩
      · rcases ih member with ⟨value, valueMem, valueRelated⟩
        exact ⟨value, List.mem_cons_of_mem found valueMem, valueRelated⟩

/-- Every item of a list of steps has one of the values. -/
theorem exists_value_of_mapM {step : α → Except ε β} {items : List α} {values : List β}
    (mapped : items.mapM step = .ok values) {item : α} (member : item ∈ items) :
    ∃ value ∈ values, step item = .ok value :=
  exists_of_forall₂_of_mem (mapM_eq_ok_iff.mp mapped) member

/-- Every value of a list of steps belongs to one of the items. -/
theorem exists_item_of_mapM {step : α → Except ε β} {items : List α} {values : List β}
    (mapped : items.mapM step = .ok values) {value : β} (member : value ∈ values) :
    ∃ item ∈ items, step item = .ok value :=
  exists_of_forall₂_of_mem (mapM_eq_ok_iff.mp mapped).flip member

/-- Where a step is that of a function, a list of steps has the values of the function. -/
theorem eq_map_of_mapM {step : α → Except ε β} {function : α → β} {items : List α}
    {values : List β} (agrees : ∀ item value, step item = .ok value → value = function item)
    (mapped : items.mapM step = .ok values) : values = items.map function := by
  have matched := mapM_eq_ok_iff.mp mapped
  clear mapped
  induction matched with
  | nil => rfl
  | cons stepped _ ih => rw [List.map_cons, agrees _ _ stepped, ih]

/-- A list of steps in another order has the same values, in another order. -/
theorem exists_mapM_of_perm {step : α → Except ε β} {items others : List α} {values : List β}
    (perm : others.Perm items) (mapped : items.mapM step = .ok values) :
    ∃ otherValues, others.mapM step = .ok otherValues ∧ otherValues.Perm values := by
  obtain ⟨otherValues, matched, valuesPerm⟩ :=
    List.perm_comp_forall₂ perm (mapM_eq_ok_iff.mp mapped)
  exact ⟨otherValues, mapM_eq_ok_iff.mpr matched, valuesPerm⟩

private theorem filterAuxM_eq_ok {step : α → Except ε Bool} {test : α → Bool}
    {items kept found : List α} (agrees : ∀ item kept, step item = .ok kept → kept = test item)
    (filtered : items.filterAuxM step kept = .ok found) :
    found = (items.filter test).reverse ++ kept := by
  induction items generalizing kept with
  | nil =>
      cases filtered
      rfl
  | cons item items ih =>
      rw [List.filterAuxM, bind_eq_ok_iff] at filtered
      rcases filtered with ⟨keeps, stepped, filtered⟩
      rw [ih filtered, List.filter_cons, ← agrees item keeps stepped]
      cases keeps <;> simp

/-- What is kept of a list by a step with a value for every item is what passes the test
that the step makes. -/
theorem filterM_eq_ok {step : α → Except ε Bool} {test : α → Bool} {items found : List α}
    (agrees : ∀ item keeps, step item = .ok keeps → keeps = test item)
    (filtered : items.filterM step = .ok found) : found = items.filter test := by
  rw [List.filterM, bind_eq_ok_iff] at filtered
  rcases filtered with ⟨kept, filtered, reversed⟩
  cases pure_eq_ok_iff.mp reversed
  simp [filterAuxM_eq_ok agrees filtered]

private theorem exists_item_of_filterMapLoop {step : α → Except ε (Option β)} {items : List α}
    {kept found : List β} (mapped : List.filterMapM.loop step items kept = .ok found) {value : β}
    (member : value ∈ found) : value ∈ kept ∨ ∃ item ∈ items, step item = .ok (some value) := by
  induction items generalizing kept with
  | nil =>
      cases mapped
      exact .inl (List.mem_reverse.mp member)
  | cons item items ih =>
      rw [List.filterMapM.loop, bind_eq_ok_iff] at mapped
      rcases mapped with ⟨result, stepped, mapped⟩
      cases result with
      | none =>
          exact (ih mapped).imp_right fun ⟨other, otherMem, made⟩ =>
            ⟨other, List.mem_cons_of_mem item otherMem, made⟩
      | some first =>
          rcases ih mapped with inKept | ⟨other, otherMem, made⟩
          · rcases List.mem_cons.mp inKept with rfl | inKept
            · exact .inr ⟨item, List.mem_cons_self, stepped⟩
            · exact .inl inKept
          · exact .inr ⟨other, List.mem_cons_of_mem item otherMem, made⟩

/-- What is made of a list by a step that may leave items out belongs to one of the
items. -/
theorem exists_item_of_filterMapM {step : α → Except ε (Option β)} {items : List α}
    {values : List β} (mapped : items.filterMapM step = .ok values) {value : β}
    (member : value ∈ values) : ∃ item ∈ items, step item = .ok (some value) := by
  rcases exists_item_of_filterMapLoop mapped member with none | found
  · contradiction
  · exact found

end Montage.Result
