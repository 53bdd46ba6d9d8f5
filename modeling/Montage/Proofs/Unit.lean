import Montage.Proofs.Number.Decimal

/-!
# Lengths are read alike

By the characters of its text a value is omitted, a share, a count of pixels or no length,
and only one of these.  The four readers of lengths match a value on their own, and all of
them take it for the same.
-/

namespace Montage.Length

variable {α : Type} [Scalar α] {value : Value α} {length : Length α}

/-- What a value means as a length, by its characters. -/
inductive Means : Value α → Length α → Prop
  | null : Means .null omitted
  | empty : Means (.text "") omitted
  | percentage {text : String} {decimal : WrittenDecimal} (spelled : decimal.Spells "%" text) :
      Means (.text text) (percentage (decimal.literal.value / Scalar.ofInt 100))
  | pixels {text : String} {decimal : WrittenDecimal} (spelled : decimal.Spells "px" text) :
      Means (.text text) (pixels decimal.literal.value)
  | invalid {value : Value α} (given : value ≠ .null) (nonempty : value ≠ .text "")
      (noShare : ∀ text decimal, value = .text text → ¬WrittenDecimal.Spells decimal "%" text)
      (noCount : ∀ text decimal, value = .text text → ¬WrittenDecimal.Spells decimal "px" text) :
      Means value invalid

/-- A choice by the case of a length. -/
def elim {β : Type} (ifOmitted : β) (ofFraction ofPixels : α → β) (ifInvalid : β) : Length α → β
  | omitted => ifOmitted
  | percentage fraction => ofFraction fraction
  | pixels count => ofPixels count
  | invalid => ifInvalid

/-- The share that a length is. -/
def fraction? : Length α → Option α
  | percentage fraction => some fraction
  | _ => none

/-- The count of pixels that a length is. -/
def count? : Length α → Option α
  | pixels count => some count
  | _ => none

/-- Every reader takes a value for the same length, and refuses what it does not ask for. -/
structure IsReadAs (value : Value α) (length : Length α) : Prop where
  resolve_eq : ∀ {β : Type} (ofFraction ofPixels : α → Result α β) (ifOmitted : Result α β),
    resolve value ofFraction ofPixels ifOmitted =
      length.elim ifOmitted ofFraction ofPixels (.error (.unit (.neither value)))
  percentage?_eq : percentage? value =
    length.fraction?.elim (.error (.unit (.notPercentage value))) .ok
  pixels?_eq : pixels? value = length.count?.elim (.error (.unit (.notPixels value))) .ok
  isPercentage_eq : isPercentage value = length.fraction?.isSome

/-! ## Texts with a unit -/

section Units

variable {decimal : WrittenDecimal} {text : String}

theorem ends_percent (ending : List Char) : WrittenDecimal.Ends ("%".toList ++ ending) := by
  rintro c ⟨⟩
  decide

theorem ends_pixels (ending : List Char) : WrittenDecimal.Ends ("px".toList ++ ending) := by
  rintro c ⟨⟩
  decide

theorem withUnit?_of_share (spelled : decimal.Spells "%" text) :
    DecimalLiteral.withUnit? "%" text.toList = some decimal.literal ∧
      DecimalLiteral.withUnit? "px" text.toList = none :=
  ⟨(DecimalLiteral.withUnit?_eq_some_iff ends_percent).mpr ⟨decimal, rfl, spelled⟩,
    DecimalLiteral.withUnit?_eq_none spelled ends_percent (by decide)⟩

theorem withUnit?_of_count (spelled : decimal.Spells "px" text) :
    DecimalLiteral.withUnit? "%" text.toList = none ∧
      DecimalLiteral.withUnit? "px" text.toList = some decimal.literal :=
  ⟨DecimalLiteral.withUnit?_eq_none spelled ends_pixels (by decide),
    (DecimalLiteral.withUnit?_eq_some_iff ends_pixels).mpr ⟨decimal, rfl, spelled⟩⟩

omit [Scalar α] in
/-- A value that is no decimal with a unit is not read as one. -/
theorem ofValue?_eq_none {unit : String}
    (ends : ∀ ending, WrittenDecimal.Ends (unit.toList ++ ending))
    (unspelled : ∀ text decimal, value = .text text → ¬WrittenDecimal.Spells decimal unit text) :
    DecimalLiteral.ofValue? unit value = none := by
  cases value with
  | text text =>
      rw [DecimalLiteral.ofValue?, Option.eq_none_iff_forall_ne_some]
      intro literal read
      obtain ⟨decimal, _, spelled⟩ := (DecimalLiteral.withUnit?_eq_some_iff ends).mp read
      exact unspelled text decimal rfl spelled
  | _ => rfl

/-- A text with a unit is not empty. -/
theorem ne_empty_of_spells {unit : String} (spelled : decimal.Spells unit text) : text ≠ "" := by
  rintro rfl
  obtain ⟨ending, _, spelled⟩ := spelled
  simp [WrittenDecimal.characters, decimal.whole_ne_nil] at spelled

end Units

/-! ## Sorting and reading -/

/-- A value is sorted by what it means. -/
theorem Means.ofValue_eq (means : Means value length) : ofValue value = length := by
  cases means with
  | null => rfl
  | empty => rfl
  | percentage spelled =>
      simp [ofValue, ofText, ne_empty_of_spells spelled, (withUnit?_of_share spelled).1]
  | pixels spelled =>
      simp [ofValue, ofText, ne_empty_of_spells spelled, withUnit?_of_count spelled]
  | invalid given nonempty noShare noCount =>
      cases value with
      | text text =>
          have notEmpty : text ≠ "" := fun empty => nonempty (by rw [empty])
          have notShare := ofValue?_eq_none ends_percent noShare
          have notCount := ofValue?_eq_none ends_pixels noCount
          rw [DecimalLiteral.ofValue?] at notShare notCount
          simp [ofValue, ofText, notEmpty, notShare, notCount]
      | null => exact absurd rfl given
      | _ => rfl

/-- Every value means what it is sorted as. -/
theorem means_ofValue (value : Value α) : Means value (ofValue value) := by
  cases value with
  | null => exact .null
  | text text =>
      rw [ofValue, ofText]
      split
      case isTrue empty =>
        obtain rfl : text = "" := by simpa using empty
        exact .empty
      case isFalse nonempty =>
        split
        case h_1 literal read =>
          obtain ⟨decimal, rfl, spelled⟩ :=
            (DecimalLiteral.withUnit?_eq_some_iff ends_percent).mp read
          exact .percentage spelled
        case h_2 notShare =>
          split
          case h_1 literal read =>
            obtain ⟨decimal, rfl, spelled⟩ :=
              (DecimalLiteral.withUnit?_eq_some_iff ends_pixels).mp read
            exact .pixels spelled
          case h_2 notCount =>
            apply Means.invalid
            · simp
            · simpa using nonempty
            · rintro _ decimal ⟨⟩ spelled
              cases (withUnit?_of_share spelled).1.symm.trans notShare
            · rintro _ decimal ⟨⟩ spelled
              cases (withUnit?_of_count spelled).2.symm.trans notCount
  | _ => exact .invalid (by simp) (by simp) (by simp) (by simp)

/-- Matched as a share only, a value is the share that it means. -/
theorem Means.fraction?_eq (means : Means value length) :
    (DecimalLiteral.ofValue? "%" value).map (fun literal => literal.value / Scalar.ofInt 100) =
      length.fraction? := by
  cases means with
  | null => rfl
  | empty => rfl
  | percentage spelled => simp [DecimalLiteral.ofValue?, withUnit?_of_share spelled, fraction?]
  | pixels spelled => simp [DecimalLiteral.ofValue?, withUnit?_of_count spelled, fraction?]
  | invalid _ _ noShare _ => simp [ofValue?_eq_none ends_percent noShare, fraction?]

/-- Matched as a count of pixels only, a value is the count that it means. -/
theorem Means.count?_eq (means : Means value length) :
    (DecimalLiteral.ofValue? "px" value).map DecimalLiteral.value = length.count? := by
  cases means with
  | null => rfl
  | empty => rfl
  | percentage spelled => simp [DecimalLiteral.ofValue?, withUnit?_of_share spelled, count?]
  | pixels spelled => simp [DecimalLiteral.ofValue?, withUnit?_of_count spelled, count?]
  | invalid _ _ _ noCount => simp [ofValue?_eq_none ends_pixels noCount, count?]

/-- What a value means is what every reader takes it for. -/
theorem Means.isReadAs (means : Means value length) : IsReadAs value length where
  resolve_eq ofFraction ofPixels ifOmitted := by
    rw [resolve, means.ofValue_eq]
    cases length <;> rfl
  percentage?_eq := by
    rw [percentage?, ← means.fraction?_eq]
    cases DecimalLiteral.ofValue? "%" value <;> rfl
  pixels?_eq := by
    rw [pixels?, ← means.count?_eq]
    cases DecimalLiteral.ofValue? "px" value <;> rfl
  isPercentage_eq := by
    rw [isPercentage, ← means.fraction?_eq, Option.isSome_map]

/-- Every value means one length, as which all readers take it, and the number in it is the one
that its digits make up by their places. -/
theorem exists_isReadAs :
    (∀ {α : Type} [Scalar α] (value : Value α), ∃ length : Length α,
        (∀ other, Means value other ↔ other = length) ∧ IsReadAs value length) ∧
      ∀ decimal : WrittenDecimal, (decimal.literal.value : ℚ) = decimal.number := by
  refine ⟨fun value => ⟨ofValue value, fun other => ?_, (means_ofValue value).isReadAs⟩,
    DecimalLiteral.value_literal⟩
  constructor
  · intro means
    exact means.ofValue_eq.symm
  · rintro rfl
    exact means_ofValue value

end Montage.Length
