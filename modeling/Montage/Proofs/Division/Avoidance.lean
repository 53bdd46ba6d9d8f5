import Montage.Proofs.Result

/-!
# Steps that avoid a fault

A step avoids a fault if it does not end with it, whatever else happens.  Two steps avoid
a fault if the first does and the second does on every value that the first has, so what is
known of the values of earlier steps counts for the later ones.
-/

namespace Montage.Result

variable {ε α β : Type}

/-- A step does not end with the fault. -/
def Avoids (fault : ε) (step : Except ε β) : Prop :=
  step ≠ .error fault

variable {fault : ε}

@[simp]
theorem avoids_ok (value : β) : Avoids fault (.ok value) :=
  nofun

@[simp]
theorem avoids_pure (value : β) : Avoids fault (pure value) :=
  nofun

@[simp]
theorem avoids_error_iff {other : ε} :
    Avoids fault (.error other : Except ε β) ↔ other ≠ fault := by
  simp [Avoids]

@[simp]
theorem avoids_bind_iff {first : Except ε α} {next : α → Except ε β} :
    Avoids fault (first >>= next) ↔
      Avoids fault first ∧ ∀ value, first = .ok value → Avoids fault (next value) := by
  cases first <;> simp [Avoids]

@[simp]
theorem avoids_map_iff {change : α → β} {step : Except ε α} :
    Avoids fault (change <$> step) ↔ Avoids fault step := by
  cases step <;> simp [Avoids, Functor.map, Except.map]

@[simp]
theorem avoids_ite_iff {condition : Prop} [Decidable condition] {first second : Except ε β} :
    Avoids fault (if condition then first else second) ↔
      (condition → Avoids fault first) ∧ (¬condition → Avoids fault second) := by
  split <;> simp_all

/-- A computation on numbers ends with its own faults. -/
@[simp]
theorem avoids_lift_iff {cause : NumberFault} {computed : Except NumberFault β} :
    Avoids (.number cause) (liftM computed : Result α β) ↔ Avoids cause computed := by
  cases computed <;> simp [Avoids, liftM, monadLift, MonadLift.monadLift]

/-- A list of steps avoids what each of them avoids. -/
theorem avoids_mapM {step : α → Except ε β} {items : List α}
    (each : ∀ item ∈ items, Avoids fault (step item)) : Avoids fault (items.mapM step) := by
  induction items with
  | nil => simp
  | cons item items ih =>
      rw [List.forall_mem_cons] at each
      simpa [List.mapM_cons, each.1] using fun _ _ => ih each.2

private theorem avoids_filterMapLoop {step : α → Except ε (Option β)} {items : List α}
    (each : ∀ item ∈ items, Avoids fault (step item)) (kept : List β) :
    Avoids fault (List.filterMapM.loop step items kept) := by
  induction items generalizing kept with
  | nil => exact avoids_pure _
  | cons item items ih =>
      rw [List.forall_mem_cons] at each
      rw [List.filterMapM.loop, avoids_bind_iff]
      refine ⟨each.1, fun found _ => ?_⟩
      cases found <;> exact ih each.2 _

/-- A step that may leave items out avoids what it avoids on each of them. -/
theorem avoids_filterMapM {step : α → Except ε (Option β)} {items : List α}
    (each : ∀ item ∈ items, Avoids fault (step item)) : Avoids fault (items.filterMapM step) :=
  avoids_filterMapLoop each []

private theorem avoids_filterAuxM {step : α → Except ε Bool} {items : List α}
    (each : ∀ item ∈ items, Avoids fault (step item)) (kept : List α) :
    Avoids fault (items.filterAuxM step kept) := by
  induction items generalizing kept with
  | nil => exact avoids_pure _
  | cons item items ih =>
      rw [List.forall_mem_cons] at each
      rw [List.filterAuxM, avoids_bind_iff]
      exact ⟨each.1, fun keeps _ => ih each.2 _⟩

/-- A test of the items of a list avoids what it avoids on each of them. -/
theorem avoids_filterM {step : α → Except ε Bool} {items : List α}
    (each : ∀ item ∈ items, Avoids fault (step item)) : Avoids fault (items.filterM step) := by
  simpa [List.filterM] using avoids_filterAuxM each []

theorem avoids_option_mapM {step : α → Except ε β} {item : Option α}
    (each : ∀ value ∈ item, Avoids fault (step value)) : Avoids fault (item.mapM step) := by
  cases item <;> simp_all [Option.mapM]

end Montage.Result
