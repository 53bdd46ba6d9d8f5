import Montage.Number.Basic
import Montage.Proofs.Duration.Evaluation

/-!
# What comes of a duration

The number of a duration is a double.  Two things may have none: the unit of the first
part in a time with more than 174 parts, and a whole number of the template.  As soon as
evaluation reaches one of them it ends with that fault.  Everything else that can go
wrong is a fault of the input.
-/

namespace Montage.Duration

/-! ## Doubles -/

theorem toReal_number (x : Number) :
    Scalar.toReal x = match x.toFloat? with
      | some y => .ok (.real y)
      | none => .error .tooLarge := by
  change Number.checked (Number.ofFloat? x.toFloat?) = _
  cases x.toFloat? <;> rfl

/-- The first 174 powers of sixty have doubles. -/
theorem exists_unit {place : Nat} (small : place < 174) :
    ∃ x, Scalar.toReal (Scalar.ofInt (60 ^ place) : Number) = .ok (.real x) := by
  -- rounding is not monotone by any lemma here, so all the powers are evaluated
  have powers : ∀ place < 174, (Number.toFloat? (.whole (60 ^ place))).isSome = true := by
    decide +kernel
  obtain ⟨x, found⟩ := Option.isSome_iff_exists.mp (powers place small)
  exact ⟨x, by rw [toReal_number]; simp only [Scalar.ofInt, found]⟩

/-- The next one has none. -/
theorem unit_tooLarge :
    Scalar.toReal (Scalar.ofInt (60 ^ 174) : Number) = .error .tooLarge := by
  have power : (Number.toFloat? (.whole (60 ^ 174))).isNone = true := by
    decide +kernel
  rw [toReal_number]
  simp only [Scalar.ofInt, Option.isNone_iff_eq_none.mp power]

theorem sumParts_cons {α : Type} [Scalar α] (place : Nat) (total : α) (part : List Char)
    (rest : List (List Char)) :
    sumParts place total (part :: rest) = Scalar.toReal (Scalar.ofInt (60 ^ place)) >>= fun unit =>
      sumParts (place + 1) (total + partValue part * unit) rest :=
  rfl

/-- Parts of a time add up to a double while there are units for them. -/
theorem exists_sumParts {place : Nat} {parts : List (List Char)}
    (small : place + parts.length ≤ 174) (total : Float) :
    ∃ x, sumParts place (.real total : Number) parts = .ok (.real x) := by
  induction parts generalizing place total with
  | nil => exact ⟨total, rfl⟩
  | cons part parts ih =>
      rw [List.length_cons] at small
      obtain ⟨unit, found⟩ := exists_unit (show place < 174 by omega)
      rw [sumParts_cons, found]
      exact ih (by omega) _

theorem sumParts_tooLarge {place : Nat} {parts : List (List Char)} (le : place ≤ 174)
    (exceeds : 174 < place + parts.length) (total : Number) :
    sumParts place total parts = .error .tooLarge := by
  induction parts generalizing place total with
  | nil => simp only [List.length_nil] at exceeds; omega
  | cons part parts ih =>
      rw [List.length_cons] at exceeds
      rw [sumParts_cons]
      rcases Nat.lt_or_eq_of_le le with less | rfl
      · obtain ⟨unit, found⟩ := exists_unit less
        rw [found]
        exact ih less (by omega) _
      · rw [unit_tooLarge]
        rfl

theorem exists_seconds {characters : List Char}
    (few : (Text.parts ':' characters).length ≤ 174) :
    ∃ x, (seconds characters : Except NumberFault Number) = .ok (.real x) :=
  exists_sumParts (by simpa using few) 0.0

theorem seconds_tooLarge {characters : List Char}
    (many : 174 < (Text.parts ':' characters).length) :
    (seconds characters : Except NumberFault Number) = .error .tooLarge :=
  sumParts_tooLarge (Nat.zero_le _) (by simpa using many) _

/-- An operation on doubles is a double or a division by zero. -/
theorem apply_real_cases (operator : Operator) (x y : Float) (whole : Expression) :
    (∃ z, apply operator (.real x : Number) (.real y) whole = .ok (.real z)) ∨
      apply operator (.real x : Number) (.real y) whole =
        .error (.input (.duration (.divisionByZero whole.text))) := by
  cases operator with
  | add | subtract | multiply => exact .inl ⟨_, rfl⟩
  | divide =>
      rw [apply]
      split
      · exact .inr rfl
      · exact .inl ⟨_, rfl⟩

/-! ## Faults of the input -/

section Input

variable {α : Type} {scope : Scope α}

/-- The meaning of a reference is refused as an input. -/
theorem exists_of_meaning_error [Scalar α] {name : List Char} {fault : Fault α}
    (undefined : meaning scope name = .error fault) : ∃ cause, fault = .input (.duration cause) := by
  simp only [meaning] at undefined
  split at undefined
  · contradiction
  · split at undefined
    · exact ⟨_, (Except.error.inj undefined).symm⟩
    · split at undefined
      · exact ⟨_, (Except.error.inj undefined).symm⟩
      · split at undefined
        · exact ⟨_, (Except.error.inj undefined).symm⟩
        · unfold fieldValue at undefined
          split at undefined
          · contradiction
          · contradiction
          · exact ⟨_, (Except.error.inj undefined).symm⟩

/-- A text is refused as an input. -/
theorem exists_of_read_error {s : String} {fault : Fault α}
    (refused : (read s : Result α Expression) = .error fault) :
    ∃ cause, fault = .input (.duration cause) := by
  simp only [read] at refused
  split at refused
  · contradiction
  · exact ⟨_, (Except.error.inj refused).symm⟩

end Input

/-! ## What evaluation reaches -/

variable {scope : Scope Number} {seen : List (List Char)}

/-- Evaluation of an expression behind the references in `seen` reaches a time of more
than 174 parts, or a number without a double.  What stands on the right of an operator
is reached only behind a value on its left. -/
inductive Exceeds (scope : Scope Number) : List (List Char) → Expression → Prop where
  | time {seen : List (List Char)} {characters : List Char}
      (many : 174 < (Text.parts ':' characters).length) : Exceeds scope seen (.time characters)
  | group {seen : List (List Char)} {inner : Expression} (inside : Exceeds scope seen inner) :
      Exceeds scope seen (.group inner)
  | left {seen : List (List Char)} {operator : Operator} {left right : Expression}
      (first : Exceeds scope seen left) : Exceeds scope seen (.operation operator left right)
  | right {seen : List (List Char)} {operator : Operator} {left right : Expression} {x : Number}
      (first : Evaluates scope seen left (.ok x)) (second : Exceeds scope seen right) :
      Exceeds scope seen (.operation operator left right)
  | number {seen : List (List Char)} {name : List Char} {x : Number} (fresh : name ∉ seen)
      (means : meaning scope name = .ok (.number x)) (large : x.toFloat? = none) :
      Exceeds scope seen (.reference name)
  | text {seen : List (List Char)} {name : List Char} {found : Expression} (fresh : name ∉ seen)
      (led : lead scope name = .ok (.inr found)) (further : Exceeds scope (name :: seen) found) :
      Exceeds scope seen (.reference name)

/-- The results there are, by whether evaluation exceeds what has a double. -/
inductive Settles (exceeds : Prop) : Result Number Number → Prop where
  | value (within : ¬exceeds) (x : Float) : Settles exceeds (.ok (.real x))
  | input (within : ¬exceeds) (cause : DurationFault Number) :
      Settles exceeds (.error (.input (.duration cause)))
  | tooLarge (reached : exceeds) : Settles exceeds (.error (.number .tooLarge))

theorem Settles.congr {exceeds other : Prop} {result : Result Number Number}
    (settles : Settles exceeds result) (same : other ↔ exceeds) : Settles other result :=
  propext same ▸ settles

/-- Behind a value nothing exceeds what has a double, and the value is a double. -/
theorem Settles.of_ok {exceeds : Prop} {q : Number} (settles : Settles exceeds (.ok q)) :
    ¬exceeds ∧ ∃ x, q = .real x := by
  cases settles with
  | value within x => exact ⟨within, x, rfl⟩

/-- A value that holds seconds is a number with a double, and holds that double. -/
theorem exists_of_content_number {value : Value Number} {q : Number}
    (held : content value = .ok (.inl q)) :
    ∃ x y, value = .number x ∧ x.toFloat? = some y ∧ q = .real y := by
  obtain ⟨x, rfl, real⟩ := content_eq_inl_iff.mp held
  rw [toReal_number] at real
  split at real
  · rename_i y double
    exact ⟨x, y, rfl, double, (Except.ok.inj real).symm⟩
  · contradiction

/-- What a value holds is refused as an input, unless it is a number without a double. -/
theorem content_error_cases {value : Value Number} {fault : Fault Number}
    (refused : content value = .error fault) :
    (∃ cause, fault = .input (.duration cause)) ∧ (∀ x, value ≠ .number x) ∨
      fault = .number .tooLarge ∧ ∃ x, value = .number x ∧ x.toFloat? = none := by
  cases value with
  | number x =>
      rw [content, toReal_number] at refused
      cases large : x.toFloat? with
      | some y => simp [large] at refused
      | none =>
          rw [large] at refused
          exact .inr ⟨(Except.error.inj refused).symm, x, rfl, large⟩
  | text s =>
      cases written : (read s : Result Number Expression) with
      | ok found => simp [content, written] at refused
      | error cause =>
          rw [content, written] at refused
          cases refused
          exact .inl ⟨exists_of_read_error written, by simp⟩
  | null | bool _ | list _ | map _ =>
      exact .inl ⟨⟨_, (Except.error.inj refused).symm⟩, by simp⟩

/-- A reference that leads nowhere is refused as an input, or it stands for a number
without a double. -/
theorem settles_of_lead_error {name : List Char} {fault : Fault Number} (fresh : name ∉ seen)
    (led : lead scope name = .error fault) :
    Settles (Exceeds scope seen (.reference name)) (.error fault) := by
  have exceeds_iff : Exceeds scope seen (.reference name) ↔
      ∃ x, meaning scope name = .ok (.number x) ∧ x.toFloat? = none := by
    constructor
    · rintro (_ | _ | _ | _ | ⟨-, means, large⟩ | ⟨-, found, -⟩)
      · exact ⟨_, means, large⟩
      · exact absurd (led.symm.trans found) nofun
    · rintro ⟨x, means, large⟩
      exact .number fresh means large
  cases means : meaning scope name with
  | error cause =>
      rw [lead, means] at led
      cases led
      obtain ⟨cause, rfl⟩ := exists_of_meaning_error means
      exact .input (by simp [exceeds_iff, means]) cause
  | ok value =>
      rw [lead, means] at led
      rcases content_error_cases led with ⟨⟨cause, rfl⟩, others⟩ | ⟨rfl, x, rfl, large⟩
      · refine .input ?_ cause
        rintro exceeds
        obtain ⟨x, isNumber, -⟩ := exceeds_iff.mp exceeds
        exact others x (Except.ok.inj (means.symm.trans isNumber))
      · exact .tooLarge (exceeds_iff.mpr ⟨x, means, large⟩)

/-- Every result is one of these. -/
theorem Evaluates.settles {expression : Expression} {result : Result Number Number}
    (evaluates : Evaluates scope seen expression result) :
    Settles (Exceeds scope seen expression) result := by
  induction evaluates with
  | @time seen characters =>
      rcases Nat.lt_or_ge 174 (Text.parts ':' characters).length with many | few
      · rw [seconds_tooLarge many]
        exact .tooLarge (.time many)
      · obtain ⟨x, spelled⟩ := exists_seconds few
        rw [spelled]
        exact .value (fun | .time many => absurd few (by omega)) x
  | group _ ih => exact ih.congr ⟨fun | .group inside => inside, .group⟩
  | leftFault fails ih =>
      refine ih.congr ⟨?_, .left⟩
      rintro (_ | _ | exceeds | ⟨first, -⟩)
      · exact exceeds
      · cases first.unique fails
  | rightFault first _ leftIh ih =>
      refine ih.congr ⟨?_, .right first⟩
      rintro (_ | _ | exceeds | ⟨-, second⟩)
      · exact absurd exceeds leftIh.of_ok.1
      · exact second
  | @operation seen operator left right x y first second leftIh rightIh =>
      obtain ⟨leftWithin, x, rfl⟩ := leftIh.of_ok
      obtain ⟨rightWithin, y, rfl⟩ := rightIh.of_ok
      have within : ¬Exceeds scope seen (.operation operator left right) := by
        rintro (_ | _ | exceeds | ⟨-, exceeds⟩)
        · exact leftWithin exceeds
        · exact rightWithin exceeds
      rcases apply_real_cases operator x y (.operation operator left right) with
        ⟨z, applied⟩ | refused
      · rw [applied]
        exact .value within z
      · rw [refused]
        exact .input within _
  | cycle repeated =>
      refine .input ?_ _
      rintro (_ | _ | _ | _ | ⟨fresh, -⟩ | ⟨fresh, -⟩) <;> exact fresh repeated
  | astray fresh led => exact settles_of_lead_error fresh led
  | number fresh led =>
      obtain ⟨value, means, held⟩ := Result.bind_eq_ok_iff.mp led
      obtain ⟨x, y, rfl, double, rfl⟩ := exists_of_content_number held
      refine .value ?_ y
      rintro (_ | _ | _ | _ | ⟨-, again, large⟩ | ⟨-, found, -⟩)
      · cases means.symm.trans again
        cases double.symm.trans large
      · cases led.symm.trans found
  | text fresh led _ ih =>
      refine ih.congr ⟨?_, .text fresh led⟩
      rintro (_ | _ | _ | _ | ⟨-, means, -⟩ | ⟨-, found, further⟩)
      · obtain ⟨value, again, held⟩ := Result.bind_eq_ok_iff.mp led
        cases means.symm.trans again
        obtain ⟨s, isText, -⟩ := content_eq_inr_iff.mp held
        contradiction
      · cases led.symm.trans found
        exact further

/-! ## Durations -/

/-- What the value of a duration comes to. -/
inductive Yields {α : Type} [Scalar α] (scope : Scope α) (value : Value α) :
    Result α α → Prop where
  | fault {fault : Fault α} (held : content value = .error fault) :
      Yields scope value (.error fault)
  | number {x : α} (held : content value = .ok (.inl x)) : Yields scope value (.ok x)
  | text {found : Expression} {result : Result α α} (held : content value = .ok (.inr found))
      (evaluates : Evaluates scope [] found result) : Yields scope value result

/-- A value comes to one result, which is what `ofValue` finds. -/
theorem yields_iff {α : Type} [Scalar α] {scope : Scope α} {value : Value α}
    {result : Result α α} : Yields scope value result ↔ ofValue scope value = result := by
  rw [ofValue_eq]
  constructor
  · rintro (held | held | ⟨held, evaluates⟩)
    · rw [held]
      rfl
    · rw [held]
      rfl
    · rw [held]
      exact evaluates_iff.mp evaluates
  · rintro rfl
    cases held : content value with
    | error fault => exact .fault held
    | ok found =>
        cases found with
        | inl x => exact .number held
        | inr found => exact .text held (evaluates_iff.mpr rfl)

/-- On the way to the value of a duration a time of more than 174 parts is reached, or a
number without a double. -/
inductive IsOversized (scope : Scope Number) : Value Number → Prop where
  | number {x : Number} (large : x.toFloat? = none) : IsOversized scope (.number x)
  | text {value : Value Number} {found : Expression} (held : content value = .ok (.inr found))
      (inside : Exceeds scope [] found) : IsOversized scope value

theorem settles_ofValue (scope : Scope Number) (value : Value Number) :
    Settles (IsOversized scope value) (ofValue scope value) := by
  rw [ofValue_eq]
  cases held : content value with
  | error fault =>
      rcases content_error_cases held with ⟨⟨cause, rfl⟩, others⟩ | ⟨rfl, x, rfl, large⟩
      · refine .input ?_ cause
        rintro (_ | ⟨found, -⟩)
        · exact others _ rfl
        · cases held.symm.trans found
      · exact .tooLarge (.number large)
  | ok target =>
      cases target with
      | inl q =>
          obtain ⟨x, y, rfl, double, rfl⟩ := exists_of_content_number held
          refine .value ?_ y
          rintro (large | ⟨found, -⟩)
          · cases double.symm.trans large
          · cases held.symm.trans found
      | inr found =>
          refine (evaluates_iff.mpr rfl).settles.congr ⟨?_, .text held⟩
          rintro (large | ⟨again, inside⟩)
          · obtain ⟨s, isText, -⟩ := content_eq_inr_iff.mp held
            contradiction
          · cases held.symm.trans again
            exact inside

/-- Every duration has a result, and only one, however its references lead to each other.
Unless something without a double is reached on the way, the result is a double or a
fault of the input. -/
theorem ofValue_value_or_input_fault (scope : Scope Number) (value : Value Number) :
    (∀ result, Yields scope value result ↔ ofValue scope value = result) ∧
    (IsOversized scope value ∧ ofValue scope value = .error (.number .tooLarge) ∨
      ¬IsOversized scope value ∧
        ((∃ x : Float, ofValue scope value = .ok (.real x)) ∨
          ∃ cause, ofValue scope value = .error (.input (.duration cause)))) := by
  refine ⟨fun result => yields_iff, ?_⟩
  have settles := settles_ofValue scope value
  cases result : ofValue scope value with
  | ok q =>
      rw [result] at settles
      obtain ⟨within, x, rfl⟩ := settles.of_ok
      exact .inr ⟨within, .inl ⟨x, rfl⟩⟩
  | error fault =>
      rw [result] at settles
      cases settles with
      | input within cause => exact .inr ⟨within, .inr ⟨cause, rfl⟩⟩
      | tooLarge reached => exact .inl ⟨reached, rfl⟩

end Montage.Duration
