import Montage.Command.Written
import Montage.Number.Basic
import Montage.Proofs.Number.Compact

/-!
# Texts without marks

Semicolons, commas, brackets, quotes and backslashes have a meaning in the text of a graph.
The texts of numbers and colours have none of them, so they are read as they are written.
-/

namespace Montage

namespace Text

/-- Whether a character has no meaning in the text of a graph. -/
def isOrdinary (c : Char) : Bool :=
  !([';', ',', '[', ']', '\\', singleQuote].contains c)

/-- A text without marks. -/
def IsOrdinary (text : List Char) : Prop :=
  text.all isOrdinary = true

variable {front back text : List Char}

theorem isOrdinary_iff : IsOrdinary text ↔ ∀ c ∈ text, isOrdinary c = true :=
  List.all_eq_true

@[simp]
theorem isOrdinary_append : IsOrdinary (front ++ back) ↔ IsOrdinary front ∧ IsOrdinary back := by
  rw [IsOrdinary, List.all_append, Bool.and_eq_true]
  rfl

@[simp]
theorem isOrdinary_cons {c : Char} :
    IsOrdinary (c :: text) ↔ isOrdinary c = true ∧ IsOrdinary text := by
  rw [IsOrdinary, List.all_cons, Bool.and_eq_true]
  rfl

@[simp]
theorem isOrdinary_nil : IsOrdinary [] :=
  rfl

theorem IsOrdinary.of_subset (ordinary : IsOrdinary text) (subset : front ⊆ text) :
    IsOrdinary front :=
  isOrdinary_iff.mpr fun c member => isOrdinary_iff.mp ordinary c (subset member)

/-! ## Digits -/

theorem isOrdinary_toDigits {base : ℕ} (base_gt : 1 < base) (base_le : base ≤ 16) (n : ℕ) :
    IsOrdinary (Nat.toDigits base n) := by
  have digit (n : ℕ) (small : n < base) : isOrdinary n.digitChar = true :=
    (by decide : ∀ n < 16, isOrdinary n.digitChar = true) n (small.trans_le base_le)
  induction n using Nat.strong_induction_on with
  | _ n ih =>
      rw [Nat.toDigits_eq_if base_gt]
      split
      · rename_i small
        simp [digit n small]
      · have smaller : n / base < n := Nat.div_lt_self (by omega) base_gt
        simp [ih _ smaller, digit _ (Nat.mod_lt n (by omega))]

theorem isOrdinary_replicate {c : Char} (plain : isOrdinary c = true) (count : ℕ) :
    IsOrdinary (List.replicate count c) := by
  rw [isOrdinary_iff]
  intro d member
  rwa [List.eq_of_mem_replicate member]

@[simp]
theorem isOrdinary_decimal (n : ℕ) : IsOrdinary (Nat.toDigits 10 n) :=
  isOrdinary_toDigits (by decide) (by decide) n

theorem isOrdinary_toString_nat (n : ℕ) : IsOrdinary (toString n).toList := by
  rw [Nat.toString_eq_repr, Nat.toList_repr]
  exact isOrdinary_decimal n

@[simp]
theorem isOrdinary_repr (n : ℤ) : IsOrdinary n.repr.toList := by
  cases n with
  | ofNat n => exact isOrdinary_toString_nat n
  | negSucc n =>
      change IsOrdinary ("-" ++ (n + 1).repr).toList
      rw [String.toList_append, Nat.toList_repr, isOrdinary_append]
      exact ⟨rfl, isOrdinary_decimal _⟩

theorem isOrdinary_hexadecimal (width n : ℕ) : IsOrdinary (hexadecimal width n) :=
  isOrdinary_append.mpr
    ⟨isOrdinary_replicate rfl _, isOrdinary_toDigits (by decide) (by decide) n⟩

end Text

open Text

theorem Color.isOrdinary_filterText (color : Color) : IsOrdinary color.filterText.toList := by
  have channel (n : ℤ) : IsOrdinary (channelText n).toList := by
    have digits (width : ℕ) : IsOrdinary (String.ofList (hexadecimal width n.natAbs)).toList := by
      rw [String.toList_ofList]
      exact isOrdinary_hexadecimal width _
    rw [channelText]
    split
    · rw [String.toList_append, isOrdinary_append]
      exact ⟨rfl, digits 1⟩
    · exact digits 2
  simp only [filterText, String.toList_append, isOrdinary_append, channel, and_true]
  rfl

/-! ## Numbers -/

namespace Fixed

theorem isOrdinary_withPlaces (places units : ℕ) : IsOrdinary (withPlaces places units) := by
  rw [withPlaces]
  split
  · exact isOrdinary_decimal units
  · rw [isOrdinary_append, isOrdinary_cons, isOrdinary_append]
    exact ⟨isOrdinary_decimal _, rfl, isOrdinary_replicate rfl _, isOrdinary_decimal _⟩

theorem isOrdinary_characters (places : ℕ) (x : Exact) : IsOrdinary (characters places x) := by
  have signed (unsigned : List Char) (ordinary : IsOrdinary unsigned) :
      IsOrdinary (if x.isNegative then '-' :: unsigned else unsigned) := by
    split
    · exact isOrdinary_cons.mpr ⟨rfl, ordinary⟩
    · exact ordinary
  cases x with
  | notANumber => exact signed "nan".toList rfl
  | infinite _ => exact signed "inf".toList rfl
  | negativeZero => exact signed _ (isOrdinary_withPlaces places 0)
  | finite value => exact signed _ (isOrdinary_withPlaces places _)

theorem dropTrailing_subset (c : Char) (text : List Char) : dropTrailing c text ⊆ text := by
  intro d member
  rw [dropTrailing, List.mem_reverse] at member
  exact List.mem_reverse.mp ((List.dropWhile_sublist _).subset member)

theorem isOrdinary_compact (x : Exact) : IsOrdinary (compact x).toList := by
  have short : IsOrdinary (dropTrailing '.' (dropTrailing '0' (characters 6 x))) :=
    ((isOrdinary_characters 6 x).of_subset (dropTrailing_subset _ _)).of_subset
      (dropTrailing_subset _ _)
  simp only [compact]
  split
  · rfl
  · rwa [String.toList_ofList]

end Fixed

namespace Shortest

theorem isOrdinary_withPoint {digits : List Char} (ordinary : IsOrdinary digits) (point : ℤ) :
    IsOrdinary (withPoint digits point) := by
  have zeros (count : ℕ) : IsOrdinary (List.replicate count '0') := isOrdinary_replicate rfl count
  rw [withPoint]
  split
  · rw [isOrdinary_append, isOrdinary_append]
    exact ⟨⟨rfl, zeros _⟩, ordinary⟩
  · simp only [isOrdinary_append, isOrdinary_cons]
    refine ⟨⟨ordinary.of_subset (List.take_subset _ _), zeros _⟩, rfl, ?_⟩
    split
    · rfl
    · exact ordinary.of_subset (List.drop_subset _ _)

theorem isOrdinary_exponentText (exponent : ℤ) : IsOrdinary (exponentText exponent) := by
  have digits := isOrdinary_decimal exponent.natAbs
  rw [exponentText, isOrdinary_cons, isOrdinary_cons]
  refine ⟨rfl, ?_, ?_⟩
  · split <;> rfl
  · split
    · exact isOrdinary_cons.mpr ⟨rfl, digits⟩
    · exact digits

theorem isOrdinary_layout (decimal : Decimal) : IsOrdinary (layout decimal) := by
  have digits := isOrdinary_decimal decimal.units
  simp only [layout]
  split
  · exact isOrdinary_withPoint digits _
  · rw [isOrdinary_append]
    refine ⟨?_, isOrdinary_exponentText _⟩
    cases found : Nat.toDigits 10 decimal.units with
    | nil => exact isOrdinary_nil
    | cons first rest =>
        rw [found, isOrdinary_cons] at digits
        cases rest with
        | nil => exact isOrdinary_cons.mpr digits
        | cons second rest =>
            exact isOrdinary_cons.mpr ⟨digits.1, isOrdinary_cons.mpr ⟨rfl, digits.2⟩⟩

theorem isOrdinary_text (x : Binary64) : IsOrdinary (text x).toList := by
  cases x with
  | notANumber => rfl
  | infinite negative => cases negative <;> rfl
  | finite negative mantissa exponent =>
      have unsigned : IsOrdinary
          (if mantissa == 0 then "0.0".toList else layout (digits mantissa exponent)) := by
        split
        · rfl
        · exact isOrdinary_layout _
      rw [text, String.toList_ofList]
      split
      · exact isOrdinary_cons.mpr ⟨rfl, unsigned⟩
      · exact unsigned

end Shortest

namespace Scalar

@[simp]
theorem isOrdinary_compact {α : Type} [Scalar α] (x : α) :
    IsOrdinary (Scalar.compact x).toList :=
  Fixed.isOrdinary_compact _

/-- Numbers whose texts in messages have no marks. -/
class HasOrdinaryText (α : Type) [Scalar α] : Prop where
  isOrdinary_text : ∀ x : α, IsOrdinary (Scalar.text x).toList

instance : HasOrdinaryText ℚ where
  isOrdinary_text x := by
    change IsOrdinary (if x.den == 1 then toString x.num
      else toString x.num ++ "/" ++ toString x.den).toList
    split
    · exact isOrdinary_repr _
    · simp only [String.toList_append, isOrdinary_append]
      exact ⟨⟨isOrdinary_repr _, rfl⟩, isOrdinary_toString_nat _⟩

instance : HasOrdinaryText Number where
  isOrdinary_text
    | .whole n => isOrdinary_repr n
    | .real x => Shortest.isOrdinary_text (Binary64.ofFloat x)
    | .tooLarge => rfl

end Scalar

end Montage
