import Montage.Command.Calculation
import Montage.Proofs.Number.Compact
import Montage.Zoompan.Segment

/-!
# What calculations come to

A calculation is read in front of any text that does not go on with it.  Decimals, linear
formulas and choices between calculations come to the numbers that they are written for.
-/

namespace Montage

/-! ## Whole numbers as decimals -/

namespace WrittenDecimal

/-- The decimal that a whole number is written as. -/
def ofInt (n : ℤ) : WrittenDecimal where
  negative := decide (n < 0)
  whole := Nat.toDigits 10 n.natAbs
  fraction := []
  whole_ne_nil := Nat.toDigits_ne_nil
  isDigit_whole _ member :=
    Text.isDigit_of_ascii (Nat.isDigit_of_mem_toDigits (by decide) (by decide) member)
  isDigit_fraction := List.forall_mem_nil _

theorem toList_toString (n : ℤ) : (toString n).toList = (ofInt n).characters := by
  cases n with
  | ofNat n =>
      have nonneg : decide (Int.ofNat n < 0) = false := by simp
      rw [characters, ofInt, nonneg, Int.toString_eq_repr, Int.repr, Nat.toList_repr]
      simp [Fixed.behindPoint]
  | negSucc n =>
      have negative : decide (Int.negSucc n < 0) = true := decide_eq_true (Int.negSucc_lt_zero n)
      rw [characters, ofInt, negative, Int.toString_eq_repr, Int.repr, String.toList_append,
        Nat.toList_repr]
      simp [Fixed.behindPoint]

theorem number_ofInt (n : ℤ) : (ofInt n).number = n := by
  have ascii : ∀ c ∈ Nat.toDigits 10 n.natAbs, c.isDigit = true := fun _ member =>
    Nat.isDigit_of_mem_toDigits (by decide) (by decide) member
  have whole : (Text.placeValue (Nat.toDigits 10 n.natAbs) : ℚ) = |(n : ℚ)| := by
    rw [← Text.digitsValue_eq_placeValue, Text.digitsValue_eq_ofDigitChars ascii,
      Nat.ofDigitChars_ten_toDigits, Nat.cast_natAbs, Int.cast_abs]
  simp only [number, ofInt, whole, Text.fractionValue, add_zero, decide_eq_true_iff]
  split
  · rw [abs_of_neg (by exact_mod_cast ‹n < 0›), neg_one_mul, neg_neg]
  · rw [abs_of_nonneg (by exact_mod_cast not_lt.mp ‹¬n < 0›), one_mul]

/-- What stands in front of the point begins with a digit. -/
theorem exists_whole_eq_cons (decimal : WrittenDecimal) :
    ∃ first others, decimal.whole = first :: others ∧ Text.isDigit first = true := by
  obtain ⟨first, others, begins⟩ := List.exists_cons_of_ne_nil decimal.whole_ne_nil
  exact ⟨first, others, begins, decimal.isDigit_whole first (begins ▸ List.mem_cons_self)⟩

end WrittenDecimal

namespace Calculation

variable {frame value : ℚ} {inside : List Char → Reading} {rest : List Char}

/-! ## Chains -/

/-- An operator of a kind does not follow. -/
def Stops (operator? : Char → Option (Rat → Rat → Rat)) (rest : List Char) : Prop :=
  ∀ c ∈ rest.head?, operator? c = none

/-- A calculation ends in front of a text that does not go on with it. -/
def Closes (rest : List Char) : Prop :=
  ∀ c ∈ rest.head?, c = ',' ∨ c = ')'

theorem Closes.ends (closes : Closes rest) : WrittenDecimal.Ends rest := by
  intro c head
  rcases closes c head with rfl | rfl
  · decide
  · decide

theorem Closes.stops (closes : Closes rest) :
    Stops multiplicative? rest ∧ Stops additive? rest := by
  constructor <;> intro c head <;> rcases closes c head with rfl | rfl <;> rfl

section Chains

variable {operator? : Char → Option (Rat → Rat → Rat)} {operand : List Char → Reading}
  {operation : Rat → Rat → Rat} {mark : Char} {left right : ℚ} {text more : List Char}

theorem operations_of_stops (stops : Stops operator? rest) (steps : ℕ) :
    operations operator? operand steps left rest = some (left, rest) := by
  cases steps with
  | zero => rfl
  | succ steps =>
      cases rest with
      | nil => rfl
      | cons c rest => rw [operations, stops c rfl]

theorem operations_cons (isOperator : operator? mark = some operation)
    (reads : operand text = some (right, rest)) (steps : ℕ) :
    operations operator? operand (steps + 1) left (mark :: text) =
      operations operator? operand steps (operation left right) rest := by
  rw [operations, isOperator]
  simp only [reads]
  rfl

/-- An operand that no operator follows is a chain. -/
theorem chain_of_stops (reads : operand text = some (value, rest))
    (stops : Stops operator? rest) : chain operator? operand text = some (value, rest) := by
  rw [chain, reads]
  exact operations_of_stops stops _

theorem upTo_of_reads (reads : inside text = some (value, mark :: rest)) :
    upTo mark inside text = some (value, rest) := by
  rw [upTo, reads]
  exact if_pos (beq_self_eq_true mark)

end Chains

/-! ## Operands -/

theorem factor_bracket : factor frame inside ('(' :: rest) = upTo ')' inside rest :=
  rfl

theorem factor_less : factor frame inside ('l' :: 't' :: '(' :: rest) = (do
    let (left, rest) ← upTo ',' inside rest
    let (right, rest) ← upTo ')' inside rest
    return (if left < right then 1 else 0, rest)) :=
  rfl

theorem factor_choice : factor frame inside ('i' :: 'f' :: '(' :: rest) = (do
    let (condition, rest) ← upTo ',' inside rest
    let (first, rest) ← upTo ',' inside rest
    let (second, rest) ← upTo ')' inside rest
    return (if condition == 0 then second else first, rest)) :=
  rfl

/-- A decimal without a sign is an operand. -/
theorem operand_of_unsigned {decimal : WrittenDecimal} (unsigned : decimal.negative = false)
    (ends : WrittenDecimal.Ends rest) :
    operand frame inside (decimal.whole ++ (Fixed.behindPoint decimal.fraction ++ rest)) =
      some (decimal.number, rest) := by
  have scanned := DecimalLiteral.scanUnsigned_written decimal ends
  obtain ⟨first, others, begins, digit⟩ := decimal.exists_whole_eq_cons
  rw [unsigned, begins, List.cons_append] at scanned
  -- a digit opens none of the other operands
  have different (c : Char) (noDigit : Text.isDigit c = false) : first ≠ c := by
    rintro rfl
    rw [digit] at noDigit
    cases noDigit
  rw [begins, List.cons_append, operand.eq_5, scanned]
  · exact congrArg (fun value => some (value, rest)) (DecimalLiteral.value_literal decimal)
  · exact fun _ begins => different '(' (by decide) (List.cons.inj begins).1
  · exact fun _ begins => different 'i' (by decide) (List.cons.inj begins).1
  · exact fun _ begins => different 'l' (by decide) (List.cons.inj begins).1
  · exact fun _ begins => different 'n' (by decide) (List.cons.inj begins).1

/-- A decimal is a factor, with its sign. -/
theorem factor_of_decimal (decimal : WrittenDecimal) (ends : WrittenDecimal.Ends rest) :
    factor frame inside (decimal.characters ++ rest) = some (decimal.number, rest) := by
  let positive : WrittenDecimal := { decimal with negative := false }
  have unsigned : positive.negative = false := rfl
  have read : operand frame inside
      (decimal.whole ++ (Fixed.behindPoint decimal.fraction ++ rest)) =
        some (positive.number, rest) :=
    operand_of_unsigned unsigned ends
  rw [WrittenDecimal.characters, List.append_assoc, List.append_assoc]
  cases sign : decimal.negative with
  | true =>
      have number_eq : decimal.number = -positive.number := by
        simp [WrittenDecimal.number, sign, positive]
      rw [if_pos rfl, List.singleton_append, factor, read, number_eq]
      rfl
  | false =>
      have same : positive = decimal := by
        cases decimal
        cases sign
        rfl
      obtain ⟨first, others, begins, digit⟩ := decimal.exists_whole_eq_cons
      rw [if_neg Bool.false_ne_true, List.nil_append, factor.eq_2, read, same]
      rintro after begins'
      rw [begins, List.cons_append] at begins'
      cases (List.cons.inj begins').1
      cases digit

/-- There are no blanks in a decimal. -/
theorem characters_of_decimal (decimal : WrittenDecimal) {text : String}
    (spelled : text.toList = decimal.characters) : characters text = decimal.characters := by
  rw [characters, spelled, List.filter_eq_self]
  intro c member
  rw [Bool.not_eq_true', ← Bool.not_eq_true, Char.isWhitespace]
  intro blank
  simp only [Bool.or_eq_true, decide_eq_true_iff] at blank
  rcases blank with ((rfl | rfl) | rfl) | rfl <;>
    rcases decimal.of_mem_characters member with mark | mark | mark <;> cases mark

theorem characters_append (first second : String) :
    characters (first ++ second) = characters first ++ characters second := by
  rw [characters, String.toList_append, List.filter_append]
  rfl

/-! ## Rationals -/

/-- What divides the numerator of a rational in its text. -/
def denominator (x : ℚ) : List Char :=
  if x.den = 1 then [] else '/' :: (WrittenDecimal.ofInt x.den).characters

/-- The characters of a rational. -/
def ratio (x : ℚ) : List Char :=
  (WrittenDecimal.ofInt x.num).characters ++ denominator x

theorem characters_text (x : ℚ) : characters (Scalar.text x) = ratio x := by
  have whole (n : ℤ) : characters (toString n) = (WrittenDecimal.ofInt n).characters :=
    characters_of_decimal _ (WrittenDecimal.toList_toString n)
  change characters (if x.den == 1 then toString x.num
    else toString x.num ++ "/" ++ toString (x.den : ℤ)) = ratio x
  simp only [beq_iff_eq, ratio, denominator]
  split
  · rw [whole, List.append_nil]
  · rw [characters_append, characters_append, whole, whole, List.append_assoc]
    rfl

theorem ends_denominator (x : ℚ) (ends : WrittenDecimal.Ends rest) :
    WrittenDecimal.Ends (denominator x ++ rest) := by
  rw [denominator]
  split
  · exact ends
  · rintro c ⟨⟩
    decide

theorem operations_denominator (x left : ℚ) {steps : ℕ}
    (enough : (denominator x ++ rest).length ≤ steps) (ends : WrittenDecimal.Ends rest)
    (stops : Stops multiplicative? rest) :
    operations multiplicative? (factor frame inside) steps left (denominator x ++ rest) =
      some (left / x.den, rest) := by
  rw [denominator] at enough ⊢
  split
  · rename_i whole
    rw [whole, Nat.cast_one, div_one]
    exact operations_of_stops stops steps
  · obtain ⟨steps, rfl⟩ : ∃ fewer, steps = fewer + 1 := by
      rw [if_neg ‹_›, List.cons_append, List.length_cons] at enough
      exact Nat.exists_eq_add_of_le' (Nat.one_le_of_lt enough)
    have read : factor frame inside ((WrittenDecimal.ofInt x.den).characters ++ rest) =
        some ((WrittenDecimal.ofInt x.den).number, rest) :=
      factor_of_decimal _ ends
    rw [List.cons_append, operations_cons rfl read, operations_of_stops stops,
      WrittenDecimal.number_ofInt, Int.cast_natCast]

/-- The numerator of a rational is read as a factor. -/
theorem factor_ratio (x : ℚ) (ends : WrittenDecimal.Ends rest) :
    factor frame inside (ratio x ++ rest) = some ((x.num : ℚ), denominator x ++ rest) := by
  rw [ratio, List.append_assoc, factor_of_decimal _ (ends_denominator x ends),
    WrittenDecimal.number_ofInt]

/-- A rational is a product. -/
theorem product_ratio (x : ℚ) (ends : WrittenDecimal.Ends rest)
    (stops : Stops multiplicative? rest) :
    product frame inside (ratio x ++ rest) = some (x, rest) := by
  rw [product, chain, factor_ratio x ends]
  simp only [Option.bind_eq_bind, Option.bind_some]
  rw [operations_denominator x _ le_rfl ends stops, Rat.num_div_den]

/-- A rational is read behind a multiplication. -/
theorem operations_times_ratio (x left : ℚ) (ends : WrittenDecimal.Ends rest)
    (stops : Stops multiplicative? rest) :
    operations multiplicative? (factor frame inside) ('*' :: (ratio x ++ rest)).length left
      ('*' :: (ratio x ++ rest)) = some (left * x, rest) := by
  have enough : (denominator x ++ rest).length ≤ (ratio x ++ rest).length := by
    simp [ratio]
  rw [List.length_cons, operations_cons rfl (factor_ratio x ends),
    operations_denominator x _ enough ends stops, mul_div_assoc, Rat.num_div_den]

/-- A rational is read behind an addition or a subtraction. -/
theorem operations_ratio {mark : Char} {operation : ℚ → ℚ → ℚ}
    (isOperator : additive? mark = some operation) (x left : ℚ)
    (ends : WrittenDecimal.Ends rest) (stops : Stops multiplicative? rest ∧ Stops additive? rest) :
    operations additive? (product frame inside) (mark :: (ratio x ++ rest)).length left
      (mark :: (ratio x ++ rest)) = some (operation left x, rest) := by
  rw [List.length_cons, operations_cons isOperator (product_ratio x ends stops.1),
    operations_of_stops stops.2]

/-! ## Sums -/

/-- A text comes to a value at a frame, wherever a calculation may end behind it. -/
def Reads (frame : ℚ) (text : List Char) (value : ℚ) : Prop :=
  ∀ depth rest, text.length ≤ depth → Closes rest →
    sum frame depth (text ++ rest) = some (value, rest)

theorem value?_of_reads {text : String} (reads : Reads frame (characters text) value) :
    value? frame text = some value := by
  have whole := reads _ [] le_rfl nofun
  rw [List.append_nil] at whole
  rw [value?]
  simp only [whole]

/-- An operand that nothing follows is a sum. -/
theorem sum_of_factor {depth : ℕ} {text : List Char}
    (read : factor frame (sum frame depth) text = some (value, rest)) (closes : Closes rest) :
    sum frame (depth + 1) text = some (value, rest) :=
  chain_of_stops (chain_of_stops read closes.stops.1) closes.stops.2

theorem closes_cons {mark : Char} (closing : mark = ',' ∨ mark = ')') (rest : List Char) :
    Closes (mark :: rest) := by
  rintro c ⟨⟩
  exact closing

/-- A text that is a factor at every depth comes to its value. -/
theorem Reads.of_factor {text : List Char} (nonempty : text ≠ [])
    (read : ∀ depth rest, text.length ≤ depth + 1 → Closes rest →
      factor frame (sum frame depth) (text ++ rest) = some (value, rest)) :
    Reads frame text value := by
  intro depth rest enough closes
  obtain ⟨depth, rfl⟩ : ∃ fewer, depth = fewer + 1 :=
    Nat.exists_eq_add_of_le' ((List.length_pos_iff.mpr nonempty).trans_le enough)
  exact sum_of_factor (read depth rest enough closes) closes

theorem reads_frame : Reads frame ['n'] frame :=
  .of_factor (List.cons_ne_nil _ _) fun _ _ _ _ => rfl

/-- A decimal comes to the number that it writes. -/
theorem reads_decimal (decimal : WrittenDecimal) :
    Reads frame decimal.characters decimal.number := by
  refine .of_factor ?_ fun depth rest _ closes => factor_of_decimal decimal closes.ends
  simp [WrittenDecimal.characters, decimal.whole_ne_nil]

/-- What stands between brackets is read up to the mark behind it. -/
theorem Reads.upTo {text : List Char} (reads : Reads frame text value) (depth : ℕ)
    (enough : text.length ≤ depth) {mark : Char} (closing : mark = ',' ∨ mark = ')')
    (rest : List Char) :
    upTo mark (sum frame depth) (text ++ mark :: rest) = some (value, rest) :=
  upTo_of_reads (reads depth (mark :: rest) enough (closes_cons closing rest))

variable {condition first second : List Char} {left right decided : ℚ}

/-- A comparison comes to one or zero. -/
theorem Reads.less (readsFirst : Reads frame first left) (readsSecond : Reads frame second right) :
    Reads frame (['l', 't', '('] ++ first ++ ',' :: second ++ [')'])
      (if left < right then 1 else 0) := by
  refine .of_factor (by simp) fun depth rest enough _ => ?_
  simp only [List.length_append, List.length_cons, List.length_nil] at enough
  have read := readsFirst.upTo depth (by omega) (.inl rfl) (second ++ ')' :: rest)
  have read' := readsSecond.upTo depth (by omega) (.inr rfl) rest
  simp only [List.cons_append, List.nil_append, List.append_assoc, factor_less, read, read',
    Option.bind_eq_bind, Option.bind_some]
  rfl

/-- A choice comes to one of two values. -/
theorem Reads.choice (readsCondition : Reads frame condition decided)
    (readsFirst : Reads frame first left) (readsSecond : Reads frame second right) :
    Reads frame (['i', 'f', '('] ++ condition ++ ',' :: first ++ ',' :: second ++ [')'])
      (if decided = 0 then right else left) := by
  refine .of_factor (by simp) fun depth rest enough _ => ?_
  simp only [List.length_append, List.length_cons, List.length_nil] at enough
  have read := readsCondition.upTo depth (by omega) (.inl rfl)
    (first ++ ',' :: (second ++ ')' :: rest))
  have read' := readsFirst.upTo depth (by omega) (.inl rfl) (second ++ ')' :: rest)
  have read'' := readsSecond.upTo depth (by omega) (.inr rfl) rest
  simp only [List.cons_append, List.nil_append, List.append_assoc, factor_choice, read, read',
    read'', Option.bind_eq_bind, Option.bind_some, beq_iff_eq]
  rfl

/-! ## Linear formulas -/

/-- The product of a linear formula is read up to the sum behind it. -/
theorem product_linearFormula (formula : LinearFormula ℚ) (depth : ℕ) (rest : List Char) :
    product frame (sum frame (depth + 1))
      ('(' :: 'n' :: '-' :: (ratio formula.frameOffset ++
        ')' :: '*' :: (ratio formula.step ++ '+' :: rest))) =
      some ((frame - formula.frameOffset) * formula.step, '+' :: rest) := by
  have ends (mark : Char) (noDigit : Text.isDigit mark = false ∧ mark ≠ '.') (rest : List Char) :
      WrittenDecimal.Ends (mark :: rest) := by
    rintro c ⟨⟩
    exact noDigit
  have stops (operator? : Char → Option (Rat → Rat → Rat)) (mark : Char)
      (isNone : operator? mark = none) (rest : List Char) : Stops operator? (mark :: rest) := by
    rintro c ⟨⟩
    exact isNone
  have inBrackets (after : List Char) :
      sum frame (depth + 1) ('n' :: '-' :: (ratio formula.frameOffset ++ ')' :: after)) =
        some (frame - formula.frameOffset, ')' :: after) := by
    have begun : product frame (sum frame depth)
        ('n' :: '-' :: (ratio formula.frameOffset ++ ')' :: after)) =
          some (frame, '-' :: (ratio formula.frameOffset ++ ')' :: after)) :=
      chain_of_stops rfl (stops _ '-' rfl _)
    have isMinus : additive? '-' = some (· - ·) := rfl
    rw [sum, chain, begun]
    exact operations_ratio isMinus _ _ (ends ')' (by decide) _)
      ⟨stops _ ')' rfl _, stops _ ')' rfl _⟩
  rw [product, chain, factor_bracket, upTo_of_reads (inBrackets _)]
  exact operations_times_ratio _ _ (ends '+' (by decide) _) (stops _ '+' rfl _)

/-- A linear formula comes to the offset at the frame. -/
theorem reads_linearFormula (formula : LinearFormula ℚ) :
    Reads frame (characters formula.text) (formula.evaluate frame) := by
  have written : characters formula.text =
      '(' :: 'n' :: '-' :: (ratio formula.frameOffset ++
        ')' :: '*' :: (ratio formula.step ++ '+' :: ratio formula.start)) := by
    change characters ("(n - " ++ Scalar.text formula.frameOffset ++ ")*" ++
      Scalar.text formula.step ++ ("+" ++ Scalar.text formula.start)) = _
    simp only [characters_append, characters_text, List.append_assoc]
    rfl
  rw [written]
  intro depth rest enough closes
  obtain ⟨depth, rfl⟩ : ∃ fewer, depth = fewer + 2 := by
    simp only [List.length_cons] at enough
    exact Nat.exists_eq_add_of_le' (by omega)
  have isPlus : additive? '+' = some (· + ·) := rfl
  simp only [List.cons_append, List.append_assoc]
  rw [sum, chain, product_linearFormula]
  exact operations_ratio isPlus _ _ closes.ends closes.stops

end Calculation
end Montage
