import Montage.Proofs.Number.Decimal
import Montage.Proofs.Number.Rounding

/-!
# Compact decimals spell numbers

Filter arguments show numbers with at most six decimal places.  Such a text is a plain
decimal: the digits of the number rounded to six places, half to even, without zeros at
the end, and with a minus sign only in front of a number below zero.  Read as a decimal it
spells the rounded number, and so the number itself if six places are enough for it.  The
zeros and the point that are dropped at its end change nothing: they scale the digits and
the count of places alike.
-/

namespace Montage

theorem Text.digitsValue_eq_ofDigitChars {digits : List Char}
    (ascii : ∀ c ∈ digits, c.isDigit = true) :
    digitsValue digits = Nat.ofDigitChars 10 digits 0 := by
  rw [digitsValue, Nat.ofDigitChars_eq_foldl]
  refine List.foldl_ext _ _ 0 fun value c member => ?_
  rw [digit?_of_isDigit (ascii c member), Option.getD_some]

/-! ## Dropped characters -/

namespace Fixed

theorem dropTrailing_eq_rdropWhile (c : Char) (text : List Char) :
    dropTrailing c text = text.rdropWhile (· == c) :=
  rfl

/-- What is dropped from the end is a run of the one character. -/
theorem exists_append_replicate (c : Char) (text : List Char) :
    ∃ count, dropTrailing c text ++ List.replicate count c = text := by
  refine ⟨(text.rtakeWhile (· == c)).length, ?_⟩
  have run : text.rtakeWhile (· == c) =
      List.replicate (text.rtakeWhile (· == c)).length c :=
    List.eq_replicate_of_mem fun _ member => by
      simpa using List.mem_rtakeWhile_imp member
  rw [← run, dropTrailing_eq_rdropWhile, List.rdropWhile_append_rtakeWhile]

/-- The character that is dropped is not left at the end. -/
theorem getLast?_dropTrailing_ne (c : Char) (text : List Char) :
    (dropTrailing c text).getLast? ≠ some c := by
  rw [dropTrailing_eq_rdropWhile]
  intro last
  have nonempty : text.rdropWhile (· == c) ≠ [] := by
    intro none
    rw [none] at last
    cases last
  rw [List.getLast?_eq_some_getLast nonempty, Option.some.injEq] at last
  exact List.rdropWhile_last_not (· == c) text nonempty (by simpa using last)

/-- Nothing is dropped in front of another character. -/
theorem dropTrailing_append_cons {c other : Char} (different : other ≠ c)
    (front rest : List Char) :
    dropTrailing c (front ++ other :: rest) = front ++ other :: dropTrailing c rest := by
  induction rest using List.reverseRecOn with
  | nil =>
      rw [dropTrailing_eq_rdropWhile, List.rdropWhile_concat_neg _ _ _ (by simpa using different)]
      rfl
  | append_singleton rest last ih =>
      rw [← List.cons_append, ← List.append_assoc]
      by_cases dropped : last = c
      · rw [dropTrailing_eq_rdropWhile, List.rdropWhile_concat_pos _ _ _ (by simpa using dropped),
          dropTrailing_eq_rdropWhile, List.rdropWhile_concat_pos _ _ _ (by simpa using dropped)]
        exact ih
      · rw [dropTrailing_eq_rdropWhile, List.rdropWhile_concat_neg _ _ _ (by simpa using dropped),
          dropTrailing_eq_rdropWhile, List.rdropWhile_concat_neg _ _ _ (by simpa using dropped)]
        simp

/-! ## Digits behind the point -/

/-- The digits of a fraction, filled up with zeros in front. -/
def fractionDigits (places units : ℕ) : List Char :=
  let fraction := Nat.toDigits 10 (units % 10 ^ places)
  List.replicate (places - fraction.length) '0' ++ fraction

theorem withPlaces_eq {places : ℕ} (some_places : 0 < places) (units : ℕ) :
    withPlaces places units =
      Nat.toDigits 10 (units / 10 ^ places) ++ '.' :: fractionDigits places units := by
  rw [withPlaces, if_neg (by simpa using some_places.ne')]
  rfl

theorem isDigit_of_mem_fractionDigits (places units : ℕ) :
    ∀ c ∈ fractionDigits places units, c.isDigit = true := by
  intro c member
  rcases List.mem_append.mp member with zero | digit
  · rw [List.eq_of_mem_replicate zero]
    rfl
  · exact Nat.isDigit_of_mem_toDigits (by decide) (by decide) digit

theorem length_fractionDigits {places : ℕ} (some_places : 0 < places) (units : ℕ) :
    (fractionDigits places units).length = places := by
  have short : (Nat.toDigits 10 (units % 10 ^ places)).length ≤ places := by
    rw [Nat.length_toDigits_le_iff (by decide) some_places]
    exact Nat.mod_lt _ (by positivity)
  simp only [fractionDigits, List.length_append, List.length_replicate]
  omega

theorem ofDigitChars_fractionDigits (places units : ℕ) :
    Nat.ofDigitChars 10 (fractionDigits places units) 0 = units % 10 ^ places := by
  rw [fractionDigits, Nat.ofDigitChars_append, Nat.ofDigitChars_replicate_zero, Nat.mul_zero,
    Nat.ofDigitChars_ten_toDigits]

theorem behindPoint_eq_nil_iff {digits : List Char} : behindPoint digits = [] ↔ digits = [] := by
  cases digits <;> simp [behindPoint]

/-- Nothing is dropped behind digits. -/
theorem dropTrailing_append_digits {c : Char} {digits : List Char} (nonempty : digits ≠ [])
    (ascii : ∀ d ∈ digits, d.isDigit = true) (other : c.isDigit = false) (front : List Char) :
    dropTrailing c (front ++ digits) = front ++ digits := by
  rcases List.eq_nil_or_concat digits with rfl | ⟨init, last, rfl⟩
  · exact absurd rfl nonempty
  · have digit : last.isDigit = true := ascii last (by simp)
    have different : last ≠ c := by
      rintro rfl
      rw [other] at digit
      cases digit
    rw [List.concat_eq_append, ← List.append_assoc, dropTrailing_eq_rdropWhile,
      List.rdropWhile_concat_neg _ _ _ (by simpa using different)]

/-- The point goes with the last digit behind it. -/
theorem dropTrailing_point {whole kept : List Char} (nonempty : whole ≠ [])
    (wholeAscii : ∀ d ∈ whole, d.isDigit = true) (keptAscii : ∀ d ∈ kept, d.isDigit = true)
    (sign : List Char) :
    dropTrailing '.' (sign ++ whole ++ '.' :: kept) = sign ++ whole ++ behindPoint kept := by
  cases kept with
  | nil =>
      rw [dropTrailing_eq_rdropWhile, List.rdropWhile_concat_pos _ _ _ rfl,
        ← dropTrailing_eq_rdropWhile, dropTrailing_append_digits nonempty wholeAscii rfl,
        behindPoint, List.append_nil]
  | cons d kept =>
      rw [List.append_cons, dropTrailing_append_digits (List.cons_ne_nil d kept) keptAscii rfl,
        behindPoint, ← List.append_cons]

/-- The sign of a number in front of its digits. -/
def sign (x : ℚ) : List Char :=
  if x < 0 then ['-'] else []

/-- The digits that a number keeps behind its point. -/
def keptDigits (x : ℚ) : List Char :=
  dropTrailing '0' (fractionDigits 6 (units 6 x))

/-- The digits of a number in front of its point. -/
def wholeDigits (x : ℚ) : List Char :=
  Nat.toDigits 10 (units 6 x / 10 ^ 6)

theorem wholeDigits_ne_nil (x : ℚ) : wholeDigits x ≠ [] :=
  Nat.toDigits_ne_nil

theorem isDigit_of_mem_wholeDigits {x : ℚ} : ∀ d ∈ wholeDigits x, d.isDigit = true :=
  fun _ member => Nat.isDigit_of_mem_toDigits (by decide) (by decide) member

theorem exists_keptDigits (x : ℚ) :
    ∃ count, keptDigits x ++ List.replicate count '0' = fractionDigits 6 (units 6 x) :=
  exists_append_replicate '0' _

theorem isDigit_of_mem_keptDigits {x : ℚ} : ∀ d ∈ keptDigits x, d.isDigit = true := by
  intro d member
  rcases exists_keptDigits x with ⟨count, all⟩
  apply isDigit_of_mem_fractionDigits 6 (units 6 x)
  rw [← all]
  exact List.mem_append_left _ member

theorem characters_finite (x : ℚ) :
    characters 6 (.finite x) =
      sign x ++ wholeDigits x ++ '.' :: fractionDigits 6 (units 6 x) := by
  rw [characters, Exact.isNegative, sign, wholeDigits]
  simp only [withPlaces_eq (by decide : 0 < 6), decide_eq_true_eq]
  split
  · rw [List.append_assoc, List.singleton_append]
  · rw [List.nil_append]

/-- The digits that are shown are those of the units, without zeros at the end. -/
theorem digitsValue_shown (x : ℚ) :
    (Text.digitsValue (wholeDigits x ++ keptDigits x) : ℚ) / 10 ^ (keptDigits x).length =
      units 6 x / 10 ^ 6 := by
  rcases exists_keptDigits x with ⟨count, all⟩
  have length : (keptDigits x).length + count = 6 := by
    rw [← length_fractionDigits (by decide : 0 < 6) (units 6 x), ← all, List.length_append,
      List.length_replicate]
  have ascii : ∀ d ∈ wholeDigits x ++ keptDigits x, d.isDigit = true := by
    intro d member
    rcases List.mem_append.mp member with inWhole | inKept
    · exact isDigit_of_mem_wholeDigits d inWhole
    · exact isDigit_of_mem_keptDigits d inKept
  have value : 10 ^ count * Text.digitsValue (wholeDigits x ++ keptDigits x) = units 6 x := by
    rw [Text.digitsValue_eq_ofDigitChars ascii, ← Nat.ofDigitChars_replicate_zero,
      ← Nat.ofDigitChars_append, List.append_assoc, all, Nat.ofDigitChars_append,
      wholeDigits, Nat.ofDigitChars_ten_toDigits, Nat.ofDigitChars_eq_ofDigitChars_zero,
      length_fractionDigits (by decide), ofDigitChars_fractionDigits]
    exact Nat.div_add_mod _ _
  rw [← value, ← length, pow_add, Nat.cast_mul, Nat.cast_pow, Nat.cast_ofNat]
  field_simp

/-- All digits of a number are zero exactly if nothing but a zero is left of them. -/
theorem units_eq_zero_iff {x : ℚ} :
    units 6 x = 0 ↔ wholeDigits x = ['0'] ∧ keptDigits x = [] := by
  constructor
  · intro zero
    rw [wholeDigits, keptDigits, zero]
    exact ⟨rfl, by decide⟩
  · rintro ⟨whole, kept⟩
    have shown := digitsValue_shown x
    rw [whole, kept, eq_div_iff (by positivity)] at shown
    have zero : Text.digitsValue (['0'] ++ []) = 0 := by decide
    rw [zero, Nat.cast_zero, zero_div, zero_mul] at shown
    exact_mod_cast shown.symm

/-- The decimal that a number is shown as.  Where all digits are zero it has no sign. -/
def written (x : ℚ) : WrittenDecimal where
  negative := decide (x < 0 ∧ units 6 x ≠ 0)
  whole := wholeDigits x
  fraction := keptDigits x
  whole_ne_nil := wholeDigits_ne_nil x
  isDigit_whole c member := Text.isDigit_of_ascii (isDigit_of_mem_wholeDigits c member)
  isDigit_fraction c member := Text.isDigit_of_ascii (isDigit_of_mem_keptDigits c member)

theorem characters_written_of_zero {x : ℚ} (zero : units 6 x = 0) :
    (written x).characters = ['0'] := by
  obtain ⟨whole, kept⟩ := units_eq_zero_iff.mp zero
  have unsigned : (written x).negative = false := decide_eq_false fun digits => digits.2 zero
  rw [WrittenDecimal.characters, unsigned, if_neg Bool.false_ne_true, List.nil_append]
  change wholeDigits x ++ behindPoint (keptDigits x) = ['0']
  rw [whole, kept, behindPoint, List.append_nil]

theorem characters_written_of_ne_zero {x : ℚ} (digits : units 6 x ≠ 0) :
    (written x).characters = sign x ++ wholeDigits x ++ behindPoint (keptDigits x) := by
  simp [WrittenDecimal.characters, written, sign, digits]

/-- No number is shown as a zero with a sign. -/
theorem characters_written_ne_minusZero (x : ℚ) : (written x).characters ≠ ['-', '0'] := by
  by_cases zero : units 6 x = 0
  · rw [characters_written_of_zero zero]
    decide
  · rw [characters_written_of_ne_zero zero, List.append_assoc]
    intro minusZero
    by_cases negative : x < 0
    · rw [sign, if_pos negative, List.singleton_append, List.cons.injEq,
        List.append_eq_singleton_iff] at minusZero
      rcases minusZero.2 with ⟨noDigits, _⟩ | ⟨whole, behind⟩
      · exact wholeDigits_ne_nil x noDigits
      · exact zero (units_eq_zero_iff.mpr ⟨whole, behindPoint_eq_nil_iff.mp behind⟩)
    · rw [sign, if_neg negative, List.nil_append] at minusZero
      have minus : '-' ∈ wholeDigits x := by
        obtain ⟨first, others, whole⟩ := List.exists_cons_of_ne_nil (wholeDigits_ne_nil x)
        rw [whole, List.cons_append, List.cons.injEq] at minusZero
        rw [whole, minusZero.1]
        exact List.mem_cons_self
      cases isDigit_of_mem_wholeDigits '-' minus

/-- The short form of a number is the decimal that it is shown as. -/
theorem compact_finite (x : ℚ) :
    compact (.finite x) = String.ofList (written x).characters := by
  have short : dropTrailing '.' (dropTrailing '0' (characters 6 (.finite x))) =
      sign x ++ wholeDigits x ++ behindPoint (keptDigits x) := by
    rw [characters_finite, dropTrailing_append_cons (by decide), ← keptDigits,
      dropTrailing_point (wholeDigits_ne_nil x) isDigit_of_mem_wholeDigits
        isDigit_of_mem_keptDigits]
  have nonempty : sign x ++ wholeDigits x ++ behindPoint (keptDigits x) ≠ [] := by
    simp [wholeDigits_ne_nil]
  simp only [compact, short, Bool.or_eq_true, beq_iff_eq, nonempty, false_or]
  by_cases zero : units 6 x = 0
  · -- without digits, at most the sign has to go
    obtain ⟨whole, kept⟩ := units_eq_zero_iff.mp zero
    rw [characters_written_of_zero zero, sign, whole, kept]
    by_cases negative : x < 0 <;> simp [negative, behindPoint]
  · rw [← characters_written_of_ne_zero zero, if_neg (characters_written_ne_minusZero x)]

end Fixed

/-! ## Reading back -/

namespace DecimalLiteral

/-- The number that a whole text spells as a decimal. -/
def number? (text : String) : Option ℚ :=
  match scan text.toList with
  | some (literal, []) => some literal.value
  | _ => none

/-- A decimal spells the number that it writes. -/
theorem number?_characters (decimal : WrittenDecimal) :
    number? (String.ofList decimal.characters) = some decimal.number := by
  have scanned := scan_characters decimal WrittenDecimal.ends_nil
  rw [List.append_nil] at scanned
  rw [number?, String.toList_ofList, scanned]
  exact congrArg some (value_literal decimal)

end DecimalLiteral

namespace Fixed

/-- The number with six decimal places that is nearest to a number. -/
def nearest (x : ℚ) : ℚ :=
  (if x < 0 then -1 else 1) * (units 6 x / 10 ^ 6)

/-- A number is shown as the nearest number with six places. -/
theorem number_written (x : ℚ) : (written x).number = nearest x := by
  rw [← DecimalLiteral.value_literal, DecimalLiteral.value_rat]
  change (if decide (x < 0 ∧ units 6 x ≠ 0) = true then (-1 : ℚ) else 1) *
    ((Text.digitsValue (wholeDigits x ++ keptDigits x) : ℚ) / 10 ^ (keptDigits x).length) = _
  rw [digitsValue_shown, nearest]
  by_cases zero : units 6 x = 0 <;> simp [zero]

/-- The short form of a number spells the nearest number with six places. -/
theorem number?_compact (x : ℚ) :
    DecimalLiteral.number? (compact (.finite x)) = some (nearest x) := by
  rw [compact_finite, DecimalLiteral.number?_characters, number_written]

/-- The nearest number with six places is the number rounded, a half to the even neighbour. -/
theorem exists_roundsTo (x : ℚ) :
    ∃ n : ℤ, RoundsTo (x * 10 ^ 6) n ∧ nearest x = n / 10 ^ 6 := by
  have magnitude : RoundsTo (|x| * 10 ^ 6) (units 6 x : ℕ) := by
    have rounded := Binary64.roundsTo_roundHalfEven (x.num.natAbs * 10 ^ 6) x.den_pos
    have quotient : ((x.num.natAbs * 10 ^ 6 : ℕ) : ℚ) / x.den = |x| * 10 ^ 6 := by
      conv_rhs => rw [← Rat.num_div_den x, abs_div, Nat.abs_cast]
      rw [Nat.cast_mul, Nat.cast_natAbs, Int.cast_abs, mul_div_right_comm, Nat.cast_pow,
        Nat.cast_ofNat]
    rwa [quotient] at rounded
  by_cases negative : x < 0
  · refine ⟨-(units 6 x : ℕ), ?_, by simp [nearest, negative]; ring⟩
    simpa [abs_of_neg negative] using magnitude.neg
  · refine ⟨(units 6 x : ℕ), ?_, by simp [nearest, negative]⟩
    simpa [abs_of_nonneg (not_lt.mp negative)] using magnitude

/-- A number has at most six decimal places. -/
def HasSixPlaces (x : ℚ) : Prop :=
  ∃ n : ℤ, x * 10 ^ 6 = n

theorem hasSixPlaces_iff {x : ℚ} : HasSixPlaces x ↔ (x * 10 ^ 6).den = 1 := by
  rw [HasSixPlaces, Rat.den_eq_one_iff]
  constructor
  · rintro ⟨n, scaled⟩
    rw [scaled, Rat.num_intCast]
  · intro scaled
    exact ⟨_, scaled.symm⟩

instance (x : ℚ) : Decidable (HasSixPlaces x) :=
  decidable_of_iff _ hasSixPlaces_iff.symm

/-- The nearest number is the number itself exactly if six places are enough for it. -/
theorem nearest_eq_iff {x : ℚ} : nearest x = x ↔ HasSixPlaces x := by
  obtain ⟨n, rounds, same⟩ := exists_roundsTo x
  constructor
  · intro unchanged
    rw [same] at unchanged
    exact ⟨n, by rw [← unchanged, div_mul_cancel₀ _ (by positivity)]⟩
  · rintro ⟨m, scaled⟩
    rw [scaled] at rounds
    rw [same, rounds.unique (.intCast m), ← scaled, mul_div_cancel_right₀ _ (by positivity)]

/-- What lies between two numbers with six places is shown as a number between them. -/
theorem nearest_mem_Icc {x low high : ℚ} (lowShort : HasSixPlaces low)
    (highShort : HasSixPlaces high) (within : x ∈ Set.Icc low high) :
    nearest x ∈ Set.Icc low high := by
  obtain ⟨n, rounds, nearest_eq⟩ := exists_roundsTo x
  obtain ⟨l, low_eq⟩ := lowShort
  obtain ⟨h, high_eq⟩ := highShort
  have power : (0 : ℚ) < 10 ^ 6 := by norm_num
  rw [nearest_eq, Set.mem_Icc, le_div_iff₀ power, div_le_iff₀ power, low_eq, high_eq, Int.cast_le,
    Int.cast_le]
  constructor
  · apply rounds.le_of_le
    rw [← low_eq]
    exact mul_le_mul_of_nonneg_right within.1 power.le
  · apply rounds.le_of_ge
    rw [← high_eq]
    exact mul_le_mul_of_nonneg_right within.2 power.le

end Fixed

/-! ## Plain decimals -/

/-- A decimal in ASCII digits with no more of them than it needs: no zeros in front, no zeros
at the end, and a minus sign only in front of a number below zero. -/
structure WrittenDecimal.IsPlain (decimal : WrittenDecimal) (places : ℕ) : Prop where
  ascii : ∀ c ∈ decimal.whole ++ decimal.fraction, c.isDigit = true
  leading : decimal.whole = ['0'] ∨ decimal.whole.head? ≠ some '0'
  length_le : decimal.fraction.length ≤ places
  trailing : decimal.fraction.getLast? ≠ some '0'
  negative_iff : decimal.negative = true ↔ decimal.number < 0

/-- The digits of a number other than zero do not begin with a zero. -/
theorem Text.head?_toDigits {n : ℕ} (positive : 0 < n) : (Nat.toDigits 10 n).head? ≠ some '0' := by
  induction n using Nat.strong_induction_on with
  | h n ih =>
      by_cases small : n < 10
      · rw [Nat.toDigits_of_lt_base small]
        have table : ∀ digit < 10, 0 < digit → [Nat.digitChar digit].head? ≠ some '0' := by decide
        exact table n small positive
      · have shorter := ih (n / 10) (by omega) (by omega)
        rw [Nat.toDigits_of_base_le (by decide) (by omega),
          List.head?_append_of_ne_nil _ Nat.toDigits_ne_nil]
        exact shorter

namespace Fixed

theorem nearest_neg_iff {x : ℚ} : nearest x < 0 ↔ x < 0 ∧ units 6 x ≠ 0 := by
  by_cases negative : x < 0
  · rw [nearest, if_pos negative, neg_one_mul, neg_lt_zero,
      div_pos_iff_of_pos_right (by positivity), Nat.cast_pos, Nat.pos_iff_ne_zero,
      and_iff_right negative]
  · have nonneg : 0 ≤ nearest x := by
      rw [nearest, if_neg negative]
      positivity
    simp [negative, nonneg]

theorem isPlain_written (x : ℚ) : (written x).IsPlain 6 where
  ascii := by
    intro c member
    rcases List.mem_append.mp member with inWhole | inFraction
    · exact isDigit_of_mem_wholeDigits c inWhole
    · exact isDigit_of_mem_keptDigits c inFraction
  leading := by
    change wholeDigits x = ['0'] ∨ (wholeDigits x).head? ≠ some '0'
    rcases Nat.eq_zero_or_pos (units 6 x / 10 ^ 6) with zero | positive
    · exact .inl (by rw [wholeDigits, zero, Nat.toDigits_zero])
    · exact .inr (Text.head?_toDigits positive)
  length_le := by
    obtain ⟨count, all⟩ := exists_keptDigits x
    have length := congrArg List.length all
    rw [List.length_append, length_fractionDigits (by decide)] at length
    exact (Nat.le_add_right _ _).trans length.le
  trailing := getLast?_dropTrailing_ne '0' _
  negative_iff := by
    rw [number_written, nearest_neg_iff, written, decide_eq_true_iff]

/-- Every zero is shown like the one without a sign. -/
theorem compact_of_value? {x : Exact} {value : ℚ} (finite : x.value? = some value) :
    compact x = compact (.finite value) := by
  cases x with
  | finite => cases finite; rfl
  | negativeZero => cases finite; decide +kernel
  | notANumber | infinite => cases finite

/-- A text is the short form of a number: a plain decimal, and what it writes is the number
rounded to six places, a half to the even neighbour. -/
structure IsShortForm (value : ℚ) (text : String) (decimal : WrittenDecimal) : Prop where
  text_eq : text = String.ofList decimal.characters
  isPlain : decimal.IsPlain 6
  ne_minusZero : text ≠ "-0"
  isRounded : ∃ n : ℤ, RoundsTo (value * 10 ^ 6) n ∧ decimal.number = n / 10 ^ 6
  number_eq_iff : decimal.number = value ↔ HasSixPlaces value

variable {α : Type} [Scalar α]

/-- Every finite number has a short form, and different numbers with six places have different
ones. -/
theorem exists_isShortForm {x : α} {value : ℚ} (finite : (Scalar.exact x).value? = some value) :
    (∃ decimal, IsShortForm value (Scalar.compact x) decimal) ∧
      ∀ (y : α) (other : ℚ), (Scalar.exact y).value? = some other → HasSixPlaces value →
        HasSixPlaces other → (Scalar.compact x = Scalar.compact y ↔ value = other) := by
  have shown : Scalar.compact x = compact (.finite value) := compact_of_value? finite
  constructor
  · refine ⟨written value, ?_, isPlain_written value, ?_, ?_, ?_⟩
    · rw [shown, compact_finite]
    · rw [shown, compact_finite]
      intro minusZero
      exact characters_written_ne_minusZero value (String.ofList_injective minusZero)
    · rw [number_written]
      exact exists_roundsTo value
    · rw [number_written]
      exact nearest_eq_iff
  · intro y other finiteToo short shortToo
    have shownToo : Scalar.compact y = compact (.finite other) := compact_of_value? finiteToo
    rw [shown, shownToo]
    constructor
    · intro same
      have reads := number?_compact value
      rw [same, number?_compact, nearest_eq_iff.mpr short, nearest_eq_iff.mpr shortToo] at reads
      exact (Option.some.inj reads).symm
    · rintro rfl
      rfl

/-- Two and a half millionths below zero are shown as two of them, an even count.  Two
millionths are shown differently below zero and above it. -/
theorem isShortForm_halfway :
    (Scalar.exact (-1 / 400000 : ℚ)).value? = some (-1 / 400000) ∧
      (∃ decimal, IsShortForm (-1 / 400000) "-0.000002" decimal) ∧
      HasSixPlaces (-1 / 500000) ∧ HasSixPlaces (1 / 500000) ∧
      Scalar.compact (-1 / 500000 : ℚ) ≠ Scalar.compact (1 / 500000 : ℚ) := by
  have text : Scalar.compact (-1 / 400000 : ℚ) = "-0.000002" := by decide +kernel
  have below : HasSixPlaces (-1 / 500000) := by decide +kernel
  have above : HasSixPlaces (1 / 500000) := by decide +kernel
  refine ⟨rfl, text ▸ (exists_isShortForm rfl).1, below, above, fun same => ?_⟩
  have equal := ((exists_isShortForm rfl).2 (1 / 500000 : ℚ) _ rfl below above).mp same
  norm_num at equal

end Fixed

end Montage
