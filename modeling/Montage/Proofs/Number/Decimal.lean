import Montage.Proofs.Rational
import Montage.Unit

/-!
# Written decimals

A decimal is written as a sign, digits and, behind a point, more digits.  It is read from
the front of a text exactly where nothing follows that could go on with it, and what is
read of a text is such a decimal.  The number that comes of it is the one that its digits
make up by their places.
-/

namespace Montage

/-! ## Digits -/

namespace Text

variable {digits rest text : List Char}

/-- An ASCII digit has its distance from zero as its value. -/
theorem digit?_of_isDigit {c : Char} (ascii : c.isDigit = true) :
    digit? c = some (c.toNat - '0'.toNat) := by
  have lower : 48 ≤ c.toNat := by
    simpa [Char.isDigit, UInt32.le_iff_toNat_le] using (Bool.and_eq_true_iff.mp ascii).1
  have upper : c.toNat ≤ 57 := by
    simpa [Char.isDigit, UInt32.le_iff_toNat_le] using (Bool.and_eq_true_iff.mp ascii).2
  have first : digitZeros.find? (fun first => first ≤ c.toNat && c.toNat < first + 10) =
      some 48 := by
    rw [← Array.find?_toList, digitZeros]
    apply List.find?_cons_of_pos
    simp only [Bool.and_eq_true, decide_eq_true_eq]
    omega
  rw [digit?, first]
  rfl

theorem isDigit_of_ascii {c : Char} (ascii : c.isDigit = true) : isDigit c = true := by
  rw [isDigit, digit?_of_isDigit ascii]
  rfl

/-- Digits are read up to the first character that is none. -/
theorem spanDigits_eq_iff :
    spanDigits text = (digits, rest) ↔
      text = digits ++ rest ∧ (∀ c ∈ digits, isDigit c = true) ∧
        ∀ c ∈ rest.head?, isDigit c = false := by
  rw [spanDigits, List.span_eq_takeWhile_dropWhile, Prod.mk.injEq]
  constructor
  · rintro ⟨rfl, rfl⟩
    refine ⟨List.takeWhile_append_dropWhile.symm, fun c => List.mem_takeWhile_imp, ?_⟩
    intro c head
    simpa [Option.mem_def.mp head] using List.head?_dropWhile_not isDigit text
  · rintro ⟨rfl, all, ends⟩
    rw [List.takeWhile_append_of_pos all, List.dropWhile_append_of_pos all]
    cases rest with
    | nil => simp
    | cons c rest =>
        have stops := ends c rfl
        simp [stops]

/-- The number that digits spell by their places, the last of them the ones. -/
def placeValue : List Char → ℕ
  | [] => 0
  | c :: rest => (digit? c).getD 0 * 10 ^ rest.length + placeValue rest

/-- The number that digits spell behind a point, the first of them the tenths. -/
def fractionValue : List Char → ℚ
  | [] => 0
  | c :: rest => ((digit? c).getD 0 + fractionValue rest) / 10

theorem placeValue_append (digits others : List Char) :
    placeValue (digits ++ others) =
      placeValue digits * 10 ^ others.length + placeValue others := by
  induction digits with
  | nil => simp [placeValue]
  | cons c digits ih =>
      rw [List.cons_append, placeValue, ih, List.length_append, placeValue, pow_add]
      ring

/-- Reading digits from the front gives them their places. -/
theorem digitsValue_eq_placeValue (digits : List Char) :
    digitsValue digits = placeValue digits := by
  have from_start (value : ℕ) :
      digits.foldl (fun value c => 10 * value + (digit? c).getD 0) value =
        value * 10 ^ digits.length + placeValue digits := by
    induction digits generalizing value with
    | nil => simp [placeValue]
    | cons c digits ih =>
        rw [List.foldl_cons, ih, placeValue, List.length_cons, pow_succ]
        ring
  rw [digitsValue, from_start, zero_mul, zero_add]

/-- Behind a point digits spell the same number, in units of the last place. -/
theorem fractionValue_eq (digits : List Char) :
    fractionValue digits = placeValue digits / 10 ^ digits.length := by
  induction digits with
  | nil => simp [fractionValue, placeValue]
  | cons c digits ih =>
      rw [fractionValue, ih, placeValue, List.length_cons, pow_succ]
      push_cast
      field_simp

end Text

/-! ## Decimals -/

namespace Fixed

/-- The point and the digits behind it, if there are any. -/
def behindPoint : List Char → List Char
  | [] => []
  | first :: rest => '.' :: first :: rest

end Fixed

/-- A decimal as a text writes it: digits, and more of them behind a point if there is a
fraction. -/
structure WrittenDecimal where
  negative : Bool
  whole : List Char
  fraction : List Char
  whole_ne_nil : whole ≠ []
  isDigit_whole : ∀ c ∈ whole, Text.isDigit c = true
  isDigit_fraction : ∀ c ∈ fraction, Text.isDigit c = true

namespace WrittenDecimal

/-- The characters of a decimal. -/
def characters (decimal : WrittenDecimal) : List Char :=
  (if decimal.negative then ['-'] else []) ++ decimal.whole ++
    Fixed.behindPoint decimal.fraction

/-- A decimal is made up of digits, a sign and a point. -/
theorem of_mem_characters (decimal : WrittenDecimal) {c : Char}
    (member : c ∈ decimal.characters) : c = '-' ∨ c = '.' ∨ Text.isDigit c = true := by
  have behind : ∀ {digits : List Char}, c ∈ Fixed.behindPoint digits → c = '.' ∨ c ∈ digits
    | _ :: _, member => List.mem_cons.mp member
  rw [characters, List.mem_append, List.mem_append] at member
  rcases member with (signed | whole) | member
  · cases sign : decimal.negative <;> simp_all
  · exact .inr (.inr (decimal.isDigit_whole c whole))
  · exact .inr ((behind member).imp_right (decimal.isDigit_fraction c))

/-- The number that the digits of a decimal make up by their places. -/
def number (decimal : WrittenDecimal) : ℚ :=
  (if decimal.negative then -1 else 1) *
    (Text.placeValue decimal.whole + Text.fractionValue decimal.fraction)

/-- What is read of a decimal. -/
def literal (decimal : WrittenDecimal) : DecimalLiteral where
  negative := decimal.negative
  mantissa := Text.digitsValue (decimal.whole ++ decimal.fraction)
  places := decimal.fraction.length

/-- A text is a decimal with a unit behind it, and may end in one line feed. -/
def Spells (decimal : WrittenDecimal) (unit text : String) : Prop :=
  ∃ ending ∈ [[], ['\n']], text.toList = decimal.characters ++ (unit.toList ++ ending)

/-- A text that no decimal goes on into. -/
def Ends (text : List Char) : Prop :=
  ∀ c ∈ text.head?, Text.isDigit c = false ∧ c ≠ '.'

theorem ends_nil : Ends [] := by
  rintro c ⟨⟩

end WrittenDecimal

namespace DecimalLiteral

theorem value_rat (literal : DecimalLiteral) :
    (literal.value : ℚ) =
      (if literal.negative then -1 else 1) * (literal.mantissa / 10 ^ literal.places) := by
  have decimal : (Scalar.ofDecimal literal.mantissa literal.places : ℚ) =
      literal.mantissa / 10 ^ literal.places := by
    change mkRat literal.mantissa (Nat.pow 10 literal.places) = _
    rw [Rat.mkRat_eq_div]
    simp
  rw [value, decimal]
  cases literal.negative
  · simp
  · simp only [if_true, neg_mul, one_mul]

/-- The exact value of what is read of a decimal is the number that is written. -/
theorem value_literal (decimal : WrittenDecimal) :
    (decimal.literal.value : ℚ) = decimal.number := by
  have places : (Text.digitsValue (decimal.whole ++ decimal.fraction) : ℚ) /
      10 ^ decimal.fraction.length =
        Text.placeValue decimal.whole + Text.fractionValue decimal.fraction := by
    rw [Text.digitsValue_eq_placeValue, Text.placeValue_append, Text.fractionValue_eq]
    push_cast
    field_simp
  rw [value_rat, WrittenDecimal.number, ← places, WrittenDecimal.literal]

/-- A decimal is read in front of a text that it does not go on into. -/
theorem scanUnsigned_written (decimal : WrittenDecimal) {rest : List Char}
    (ends : WrittenDecimal.Ends rest) :
    scanUnsigned decimal.negative
        (decimal.whole ++ (Fixed.behindPoint decimal.fraction ++ rest)) =
      some (decimal.literal, rest) := by
  obtain ⟨negative, whole, fraction, nonempty, isWhole, isFraction⟩ := decimal
  obtain ⟨first, others, rfl⟩ := List.exists_cons_of_ne_nil nonempty
  have stops : ∀ c ∈ rest.head?, Text.isDigit c = false := fun c head => (ends c head).1
  cases fraction with
  | nil =>
      have span : Text.spanDigits (first :: others ++ rest) = (first :: others, rest) :=
        Text.spanDigits_eq_iff.mpr ⟨rfl, isWhole, stops⟩
      have noPoint : ∀ after, rest ≠ '.' :: after := by
        rintro after rfl
        exact (ends '.' rfl).2 rfl
      simp only [Fixed.behindPoint, List.nil_append]
      rw [scanUnsigned, span]
      simp [WrittenDecimal.literal]
  | cons tenth fraction =>
      have point : Text.isDigit '.' = false := by decide
      have span : Text.spanDigits (first :: others ++ '.' :: (tenth :: fraction ++ rest)) =
          (first :: others, '.' :: (tenth :: fraction ++ rest)) :=
        Text.spanDigits_eq_iff.mpr ⟨rfl, isWhole, by simpa using point⟩
      have spanFraction : Text.spanDigits (tenth :: fraction ++ rest) = (tenth :: fraction, rest) :=
        Text.spanDigits_eq_iff.mpr ⟨rfl, isFraction, stops⟩
      change scanUnsigned negative (first :: others ++ '.' :: (tenth :: fraction ++ rest)) = _
      rw [scanUnsigned, span]
      simp only [spanFraction]
      rfl

/-- What is read in front of a text is a decimal, with the rest of the text behind it. -/
theorem exists_of_scanUnsigned {negative : Bool} {text rest : List Char}
    {literal : DecimalLiteral} (read : scanUnsigned negative text = some (literal, rest)) :
    ∃ decimal : WrittenDecimal, decimal.negative = negative ∧ decimal.literal = literal ∧
      text = decimal.whole ++ (Fixed.behindPoint decimal.fraction ++ rest) := by
  rw [scanUnsigned] at read
  split at read
  case h_1 => contradiction
  case h_2 whole after nonempty span =>
      obtain ⟨rfl, isWhole, _⟩ := Text.spanDigits_eq_iff.mp span
      split at read
      case h_1 =>
        cases read
        exact ⟨⟨negative, whole, [], nonempty, isWhole, by simp⟩, rfl,
          by simp [WrittenDecimal.literal], rfl⟩
      case h_2 fraction behind nonemptyFraction spanFraction =>
        cases read
        obtain ⟨rfl, isFraction, _⟩ := Text.spanDigits_eq_iff.mp spanFraction
        obtain ⟨tenth, others, rfl⟩ := List.exists_cons_of_ne_nil nonemptyFraction
        exact ⟨⟨negative, whole, tenth :: others, nonempty, isWhole, isFraction⟩, rfl, rfl, rfl⟩
  case h_3 whole after nonempty noPoint span =>
      cases read
      obtain ⟨rfl, isWhole, _⟩ := Text.spanDigits_eq_iff.mp span
      exact ⟨⟨negative, whole, [], nonempty, isWhole, by simp⟩, rfl,
        by simp [WrittenDecimal.literal], rfl⟩

/-- A decimal is read with its sign in front of a text that it does not go on into. -/
theorem scan_characters (decimal : WrittenDecimal) {rest : List Char}
    (ends : WrittenDecimal.Ends rest) :
    scan (decimal.characters ++ rest) = some (decimal.literal, rest) := by
  have unsigned := scanUnsigned_written decimal ends
  rw [WrittenDecimal.characters, List.append_assoc, List.append_assoc]
  cases sign : decimal.negative with
  | true =>
      rw [sign] at unsigned
      exact unsigned
  | false =>
      rw [sign] at unsigned
      obtain ⟨first, others, begins⟩ := List.exists_cons_of_ne_nil decimal.whole_ne_nil
      have digit : Text.isDigit first = true :=
        decimal.isDigit_whole first (by rw [begins]; exact List.mem_cons_self)
      have plain : first ≠ '-' := by
        rintro rfl
        cases digit
      simp only [Bool.false_eq_true, if_false, List.nil_append, begins,
        List.cons_append] at unsigned ⊢
      rw [scan.eq_2 _ (by simpa using plain), unsigned]

/-- What is read in front of a text is a decimal with its sign, and the rest of the text
stands behind it. -/
theorem exists_of_scan {text rest : List Char} {literal : DecimalLiteral}
    (read : scan text = some (literal, rest)) :
    ∃ decimal : WrittenDecimal, decimal.literal = literal ∧ text = decimal.characters ++ rest := by
  rw [scan.eq_def] at read
  split at read
  case h_1 =>
    obtain ⟨decimal, negative, same, rfl⟩ := exists_of_scanUnsigned read
    exact ⟨decimal, same, by simp [WrittenDecimal.characters, negative]⟩
  case h_2 =>
    obtain ⟨decimal, positive, same, rfl⟩ := exists_of_scanUnsigned read
    exact ⟨decimal, same, by simp [WrittenDecimal.characters, positive]⟩

/-- A text is read as a decimal with a unit behind it exactly if it is one. -/
theorem withUnit?_eq_some_iff {unit text : String} {literal : DecimalLiteral}
    (ends : ∀ ending, WrittenDecimal.Ends (unit.toList ++ ending)) :
    withUnit? unit text.toList = some literal ↔
      ∃ decimal : WrittenDecimal, decimal.literal = literal ∧ decimal.Spells unit text := by
  constructor
  · intro read
    obtain ⟨⟨found, rest⟩, scanned, finished⟩ := Option.bind_eq_some_iff.mp read
    obtain ⟨decimal, same, spelled⟩ := exists_of_scan scanned
    simp only [Option.ite_none_right_eq_some, Option.some.injEq, Bool.or_eq_true,
      beq_iff_eq] at finished
    obtain ⟨unitOnly | unitAndFeed, rfl⟩ := finished
    · exact ⟨decimal, same, [], by simp, by rw [spelled, unitOnly, List.append_nil]⟩
    · exact ⟨decimal, same, ['\n'], by simp, by rw [spelled, unitAndFeed]⟩
  · rintro ⟨decimal, rfl, ending, fits, spelled⟩
    rw [withUnit?, spelled, scan_characters decimal (ends ending)]
    rcases List.mem_pair.mp fits with rfl | rfl
    · simp
    · simp

/-- A text that is a decimal with one unit is none with another. -/
theorem withUnit?_eq_none {decimal : WrittenDecimal} {unit other text : String}
    (spelled : decimal.Spells unit text)
    (ends : ∀ ending, WrittenDecimal.Ends (unit.toList ++ ending))
    (apart : ∀ ending ∈ [[], ['\n']],
      unit.toList ++ ending ∉ [other.toList, other.toList ++ ['\n']]) :
    withUnit? other text.toList = none := by
  obtain ⟨ending, fits, spelled⟩ := spelled
  rw [withUnit?, spelled, scan_characters decimal (ends ending)]
  simpa [not_or] using apart ending fits

end DecimalLiteral
end Montage
