import Mathlib
import Montage.Machine.Session

/-!
# Programs on two sessions

A program carries a relation between sessions on to another one if it has the same result
on related sessions and leaves them related.  Programs that follow one another carry what
they carry each, so that it is enough to look at the smallest ones.
-/

namespace Montage.Program

variable {α β γ : Type}

/-! ## Outcomes -/

/-- What a program comes to on a session, and the session that it leaves. -/
def outcome (program : Program α β) (session : Session α) : Result α β × Session α :=
  program.run.run session

variable {program : Program α β} {next : β → Program α γ} {session : Session α}

theorem outcome_bind :
    (program >>= next).outcome session =
      match program.outcome session with
      | (.ok value, behind) => (next value).outcome behind
      | (.error fault, behind) => (.error fault, behind) := by
  simp only [outcome, ExceptT.run_bind, StateT.run_bind]
  rcases program.run.run session with ⟨_ | value, behind⟩ <;> rfl

theorem outcome_bind_of_ok {value : β} {behind : Session α}
    (first : program.outcome session = (.ok value, behind)) :
    (program >>= next).outcome session = (next value).outcome behind := by
  rw [outcome_bind, first]

theorem outcome_bind_of_error {fault : Fault α} {behind : Session α}
    (first : program.outcome session = (.error fault, behind)) :
    (program >>= next).outcome session = (.error fault, behind) := by
  rw [outcome_bind, first]

/-- Two programs have a value together when the second has it behind the first. -/
theorem outcome_bind_eq_ok_iff {value : γ} {behind : Session α} :
    (program >>= next).outcome session = (.ok value, behind) ↔
      ∃ found between, program.outcome session = (.ok found, between) ∧
        (next found).outcome between = (.ok value, behind) := by
  rw [outcome_bind]
  rcases program.outcome session with ⟨_ | found, between⟩ <;> simp

/-- Computing leaves the session alone. -/
theorem outcome_ofResult_eq_ok_iff {result : Result α β} {value : β} {behind : Session α} :
    (ofResult result).outcome session = (.ok value, behind) ↔
      result = .ok value ∧ session = behind :=
  Prod.mk.injEq _ _ _ _ ▸ Iff.rfl

theorem outcome_pure_eq_ok_iff {found value : β} {behind : Session α} :
    (pure found : Program α β).outcome session = (.ok value, behind) ↔
      found = value ∧ session = behind := by
  change (Except.ok found, session) = _ ↔ _
  simp

/-- An outcome without a fault has a value. -/
theorem exists_of_isSome {came : Result α β × Session α}
    (succeeds : came.1.toOption.isSome = true) :
    ∃ value behind, came = (.ok value, behind) := by
  rcases came with ⟨_ | value, behind⟩
  · cases succeeds
  · exact ⟨value, behind, rfl⟩

@[simp]
theorem outcome_get_bind {rest : Session α → Program α β} :
    (get >>= rest).outcome session = (rest session).outcome session :=
  rfl

theorem outcome_await {flight : ℕ} {result : Result α (MediaInfo α)}
    (ended : session.cache.result? flight = some result) :
    (await flight).outcome session = (result, session) := by
  rw [await, outcome_get_bind, ended]
  rfl

/-- A program with a cache of its own does what it does with an empty one, and leaves the cache
of the session as it was. -/
theorem outcome_withOwnCache (program : Program α β) (session : Session α) :
    (withOwnCache program).outcome session =
      ((program.outcome { session with cache := .empty }).1,
        { (program.outcome { session with cache := .empty }).2 with cache := session.cache }) :=
  rfl

/-! ## Relations that are carried -/

/-- On sessions that are related in the first way, a program has the same result, and it
leaves sessions that are related in the second way. -/
def Carries (before behind : Session α → Session α → Prop) (program : Program α β) : Prop :=
  ∀ first second, before first second →
    (program.outcome first).1 = (program.outcome second).1 ∧
      behind (program.outcome first).2 (program.outcome second).2

variable {before middle behind : Session α → Session α → Prop}

theorem Carries.pure (value : β) : Carries before before (Pure.pure value : Program α β) :=
  fun _ _ related => ⟨rfl, related⟩

theorem Carries.ofResult (result : Result α β) : Carries before before (Program.ofResult result) :=
  fun _ _ related => ⟨rfl, related⟩

/-- Programs that follow one another; what is known in the middle must be enough behind a
fault. -/
theorem Carries.bind (first : Carries before middle program)
    (rest : ∀ value, Carries middle behind (next value))
    (enough : ∀ left right, middle left right → behind left right) :
    Carries before behind (program >>= next) := by
  intro left right related
  have carried := first left right related
  rw [outcome_bind, outcome_bind]
  generalize program.outcome left = leftOutcome at carried ⊢
  generalize program.outcome right = rightOutcome at carried ⊢
  rcases leftOutcome with ⟨result, leftBehind⟩
  rcases rightOutcome with ⟨_, rightBehind⟩
  rcases carried with ⟨rfl, related⟩
  cases result with
  | ok value => exact rest value leftBehind rightBehind related
  | error fault => exact ⟨rfl, enough _ _ related⟩

/-- Programs that follow one another and carry a relation on to itself. -/
theorem Carries.andThen (first : Carries before before program)
    (rest : ∀ value, Carries before before (next value)) :
    Carries before before (program >>= next) :=
  first.bind rest fun _ _ related => related

/-- Behind a program that only looks at its session, it is known what has been seen. -/
theorem Carries.bindLook {look : Session α → Result α β}
    (looks : ∀ session, program.outcome session = (look session, session))
    (common : ∀ left right, before left right → look left = look right)
    (rest : ∀ value, Carries (fun left right => before left right ∧ look left = .ok value) behind
      (next value))
    (enough : ∀ left right, before left right → behind left right) :
    Carries before behind (program >>= next) := by
  intro left right related
  have same := common left right related
  rw [outcome_bind, outcome_bind, looks, looks, ← same]
  cases seen : look left with
  | ok value => exact rest value left right ⟨related, seen⟩
  | error fault => exact ⟨rfl, enough left right related⟩

/-- A program carries on what is more than enough. -/
theorem Carries.narrow (carries : Carries middle behind program)
    (enough : ∀ left right, before left right → middle left right) :
    Carries before behind program :=
  fun left right related => carries left right (enough left right related)

theorem Carries.attempt (carries : Carries before behind program) :
    Carries before behind program.attempt := by
  intro left right related
  rcases carries left right related with ⟨same, related⟩
  exact ⟨congrArg Except.ok same, related⟩

/-- A program may read what related sessions have in common. -/
theorem Carries.read {rest : Session α → Program α β}
    (common : ∀ left right, before left right → rest left = rest right)
    (each : ∀ session, Carries before behind (rest session)) :
    Carries before behind (get >>= rest) := by
  intro left right related
  rw [outcome_get_bind, outcome_get_bind, ← common left right related]
  exact each left left right related

theorem Carries.change {change : Session α → Session α}
    (kept : ∀ left right, before left right → behind (change left) (change right)) :
    Carries before behind (modify change : Program α Unit) :=
  fun left right related => ⟨rfl, kept left right related⟩

theorem Carries.onlyIf {condition : Prop} [Decidable condition] {other : Program α β}
    (first : Carries before behind program) (second : Carries before behind other) :
    Carries before behind (if condition then program else other) := by
  split
  · exact first
  · exact second

theorem Carries.mapM {Item : Type} {step : Item → Program α β} {items : List Item}
    (each : ∀ item ∈ items, Carries before before (step item)) :
    Carries before before (items.mapM step) := by
  induction items with
  | nil => exact Carries.pure []
  | cons item items ih =>
      rcases List.forall_mem_cons.mp each with ⟨first, others⟩
      rw [List.mapM_cons]
      exact first.andThen fun _ => (ih others).andThen fun _ => Carries.pure _

theorem Carries.forM {Item : Type} {step : Item → Program α Unit}
    (each : ∀ item, Carries before before (step item)) (items : List Item) :
    Carries before before (items.forM step) := by
  induction items with
  | nil => exact Carries.pure ()
  | cons item items ih =>
      exact (each item).andThen fun _ => ih

end Montage.Program
