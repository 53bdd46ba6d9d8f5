import Mathlib
import Montage.Duration.Grammar

/-!
# Times are read to their end

The reader of a time takes digits, and marks in front of digits.  What it takes in this
way from the front of a text is a time unless it begins with a colon, and every time
is taken as a whole where none of its characters could follow it.
-/

namespace Montage

namespace Text

theorem isDigit_iff {c : Char} :
    isDigit c = true ↔ ∃ first ∈ digitZeros, first ≤ c.toNat ∧ c.toNat < first + 10 := by
  simp [isDigit, digit?, Array.find?_isSome]

/-- No digit is white space. -/
theorem not_isBlank_of_isDigit {c : Char} (digit : isDigit c = true) : isBlank c = false := by
  rcases isDigit_iff.mp digit with ⟨first, member, lower, upper⟩
  obtain ⟨value, code⟩ := Nat.exists_eq_add_of_le lower
  have table : ∀ first ∈ digitZeros.toList, ∀ value < 10,
      isBlank (Char.ofNat (first + value)) = false := by
    decide
  have plain := table first (by simpa using member) value (by omega)
  rwa [← code, Char.ofNat_toNat] at plain

end Text

namespace Duration

open Text

/-! ## Digits and marks -/

/-- The marks inside of times. -/
def IsMark (c : Char) : Prop :=
  c = ':' ∨ c = '.' ∨ c = ','

instance : DecidablePred IsMark :=
  fun c => inferInstanceAs (Decidable (c = ':' ∨ c = '.' ∨ c = ','))

theorem IsMark.not_isDigit {c : Char} (mark : IsMark c) : isDigit c = false := by
  rcases mark with rfl | rfl | rfl <;> decide

theorem IsMark.not_isBlank {c : Char} (mark : IsMark c) : isBlank c = false := by
  rcases mark with rfl | rfl | rfl <;> decide

/-- What can follow a place inside a time: digits, and marks in front of digits.  Behind
a fraction has begun there are no more marks. -/
inductive Tail : Bool → List Char → Prop where
  | nothing {inFraction : Bool} : Tail inFraction []
  | digit {inFraction : Bool} {c : Char} {rest : List Char} (digit : isDigit c = true)
      (tail : Tail inFraction rest) : Tail inFraction (c :: rest)
  | mark {c d : Char} {rest : List Char} (mark : IsMark c) (digit : isDigit d = true)
      (tail : Tail (c != ':') rest) : Tail false (c :: d :: rest)

/-- There is no white space inside a time. -/
theorem Tail.not_isBlank {inFraction : Bool} {text : List Char} (tail : Tail inFraction text) :
    ∀ c ∈ text, isBlank c = false := by
  induction tail with
  | nothing => simp
  | digit digit _ ih => exact List.forall_mem_cons.mpr ⟨not_isBlank_of_isDigit digit, ih⟩
  | mark mark digit _ ih =>
      exact List.forall_mem_cons.mpr
        ⟨mark.not_isBlank, List.forall_mem_cons.mpr ⟨not_isBlank_of_isDigit digit, ih⟩⟩

/-- A text that no time goes on into. -/
def Stops (text : List Char) : Prop :=
  ∀ c ∈ text.head?, isDigit c = false ∧ ¬IsMark c

theorem stops_nil : Stops [] := by
  rintro c ⟨⟩

/-- No time goes on into white space. -/
theorem stops_of_isBlank {c : Char} {rest : List Char} (blank : isBlank c = true) :
    Stops (c :: rest) := by
  rintro _ ⟨⟩
  refine ⟨?_, fun mark => ?_⟩
  · by_contra digit
    simp [not_isBlank_of_isDigit (Bool.not_eq_false _ ▸ digit)] at blank
  · simp [mark.not_isBlank] at blank

/-- What is read as a time is the tail of one. -/
theorem tail_spanTime (inFraction : Bool) (text : List Char) :
    Tail inFraction (spanTime inFraction text).1 := by
  fun_induction spanTime inFraction text with
  | case1 => exact .nothing
  | case2 _ c digit => exact .digit digit .nothing
  | case3 => exact .nothing
  | case4 inFraction c d rest digit time after read ih =>
      rw [read] at ih
      exact .digit digit ih
  | case5 inFraction c d rest _ opens time after read ih =>
      rw [read] at ih
      simp only [Bool.and_eq_true, Bool.not_eq_true', Bool.or_eq_true, beq_iff_eq] at opens
      rcases opens with ⟨⟨rfl, digit⟩, mark⟩
      exact .mark (by simpa [IsMark, or_assoc] using mark) digit ih
  | case6 => exact .nothing

/-- The tail of a time is read as a whole in front of a text that stops it. -/
theorem spanTime_tail {inFraction : Bool} {time rest : List Char} (tail : Tail inFraction time)
    (ends : Stops rest) : spanTime inFraction (time ++ rest) = (time, rest) := by
  induction tail with
  | nothing =>
      match rest with
      | [] => rfl
      | [c] => simp [spanTime, (ends c rfl).1]
      | c :: d :: rest =>
        obtain ⟨plain, unmarked⟩ := ends c rfl
        simp only [List.nil_append, spanTime, plain]
        simpa [IsMark, and_assoc] using fun _ _ => unmarked
  | @digit inFraction c time digit tail ih =>
      rw [List.cons_append]
      match whole : time ++ rest with
      | [] =>
        obtain ⟨rfl, rfl⟩ := List.append_eq_nil_iff.mp whole
        simp [spanTime, digit]
      | d :: after =>
        rw [whole] at ih
        simp [spanTime, digit, ih]
  | @mark c d time mark digit tail ih =>
      simp [spanTime, mark.not_isDigit, digit, ih]
      simpa [IsMark, or_iff_not_imp_left] using mark

/-! ## Times and tails -/

theorem IsDigits.append_tail {inFraction : Bool} {text rest : List Char} (digits : IsDigits text)
    (tail : Tail inFraction rest) : Tail inFraction (text ++ rest) := by
  obtain ⟨-, digits⟩ := digits
  induction text with
  | nil => exact tail
  | cons c text ih =>
      rw [List.forall_mem_cons] at digits
      exact .digit digits.1 (ih digits.2)

/-- A mark and digits begin the tail of a time. -/
theorem IsDigits.mark_tail {c : Char} {text rest : List Char} (mark : IsMark c)
    (digits : IsDigits text) (tail : Tail (c != ':') rest) : Tail false (c :: text ++ rest) := by
  match text, digits with
  | [d], digits => exact .mark mark (digits.2 d List.mem_cons_self) tail
  | d :: e :: text, digits =>
    have others : IsDigits (e :: text) :=
      ⟨List.cons_ne_nil e text, fun c member => digits.2 c (List.mem_cons_of_mem d member)⟩
    exact .mark mark (digits.2 d List.mem_cons_self) (others.append_tail tail)

theorem IsFraction.tail {text : List Char} (fraction : IsFraction text) : Tail false text := by
  cases fraction with
  | point digits => simpa using digits.mark_tail (.inr (.inl rfl)) Tail.nothing
  | comma digits => simpa using digits.mark_tail (.inr (.inr rfl)) Tail.nothing

/-- A tail goes on behind groups of digits, and behind a colon and groups of digits. -/
theorem IsClock.append_tail {text rest : List Char} (clock : IsClock text)
    (tail : Tail false rest) : Tail false (text ++ rest) ∧ Tail false (':' :: text ++ rest) := by
  induction clock with
  | digits digits => exact ⟨digits.append_tail tail, digits.mark_tail (.inl rfl) tail⟩
  | @colon first others digits clock ih =>
      rw [List.cons_append, List.append_assoc]
      exact ⟨digits.append_tail ih.2, digits.mark_tail (.inl rfl) ih.2⟩

/-- Behind the mark of a fraction there are digits only. -/
theorem Tail.digits {inFraction : Bool} {text : List Char} (tail : Tail inFraction text)
    (behind : inFraction = true) : ∀ c ∈ text, isDigit c = true := by
  induction tail with
  | nothing => simp
  | digit digit _ ih => exact List.forall_mem_cons.mpr ⟨digit, ih behind⟩
  | mark => contradiction

/-- A point or a comma, a digit and what can follow it are a fraction. -/
theorem Tail.isFraction {c d : Char} {rest : List Char} (tail : Tail (c != ':') rest)
    (mark : c = '.' ∨ c = ',') (digit : isDigit d = true) : IsFraction (c :: d :: rest) := by
  have behind : (c != ':') = true := by
    rcases mark with rfl | rfl <;> rfl
  have digits : IsDigits (d :: rest) :=
    ⟨List.cons_ne_nil d rest, List.forall_mem_cons.mpr ⟨digit, tail.digits behind⟩⟩
  rcases mark with rfl | rfl
  · exact .point digits
  · exact .comma digits

/-- Digits and the tail of a time are groups of digits and at most one fraction. -/
theorem Tail.exists_clock {text digits : List Char} (tail : Tail false text)
    (isDigits : IsDigits digits) :
    ∃ whole part, digits ++ text = whole ++ part ∧ IsClock whole ∧
      (part = [] ∨ IsFraction part) := by
  generalize before : false = inFraction at tail
  induction tail generalizing digits with
  | nothing => exact ⟨digits, [], rfl, .digits isDigits, .inl rfl⟩
  | @digit _ c rest digit _ ih =>
      have longer : IsDigits (digits ++ [c]) :=
        ⟨by simp, List.forall_mem_append.mpr ⟨isDigits.2, List.forall_mem_singleton.mpr digit⟩⟩
      simpa using ih longer before
  | @mark c d rest mark digit tail ih =>
      rcases mark with rfl | mark
      · have one : IsDigits [d] := ⟨List.cons_ne_nil d [], List.forall_mem_singleton.mpr digit⟩
        obtain ⟨whole, part, split, clock, ends⟩ := ih one rfl
        refine ⟨digits ++ ':' :: whole, part, ?_, .colon isDigits clock, ends⟩
        simpa using split
      · exact ⟨digits, c :: d :: rest, rfl, .digits isDigits, .inr (tail.isFraction mark digit)⟩

theorem IsDigits.exists_head {text : List Char} (digits : IsDigits text) :
    ∃ d rest, text = d :: rest ∧ isDigit d = true := by
  obtain ⟨d, rest, rfl⟩ := List.exists_cons_of_ne_nil digits.1
  exact ⟨d, rest, rfl, digits.2 d List.mem_cons_self⟩

theorem IsClock.exists_head {text : List Char} (clock : IsClock text) :
    ∃ d rest, text = d :: rest ∧ isDigit d = true := by
  cases clock with
  | digits digits => exact digits.exists_head
  | @colon first others digits clock =>
      obtain ⟨d, rest, rfl, digit⟩ := digits.exists_head
      exact ⟨d, rest ++ ':' :: others, rfl, digit⟩

/-- A time begins with a digit, a point or a comma. -/
theorem IsTime.exists_head {time : List Char} (isTime : IsTime time) :
    ∃ c rest, time = c :: rest ∧ (isDigit c = true ∨ c = '.' ∨ c = ',') := by
  cases isTime with
  | clock clock =>
      obtain ⟨d, rest, rfl, digit⟩ := clock.exists_head
      exact ⟨d, rest, rfl, .inl digit⟩
  | fraction fraction =>
      cases fraction with
      | point digits => exact ⟨_, _, rfl, .inr (.inl rfl)⟩
      | comma digits => exact ⟨_, _, rfl, .inr (.inr rfl)⟩
  | @both whole part clock fraction =>
      obtain ⟨d, rest, rfl, digit⟩ := clock.exists_head
      exact ⟨d, rest ++ part, rfl, .inl digit⟩

theorem IsTime.tail {time : List Char} (isTime : IsTime time) : Tail false time := by
  cases isTime with
  | clock clock => simpa using (clock.append_tail Tail.nothing).1
  | fraction fraction => exact fraction.tail
  | both clock fraction => exact (clock.append_tail fraction.tail).1

/-- The tail of a time is a time unless it is empty or begins with a colon. -/
theorem Tail.isTime {time : List Char} (tail : Tail false time) (nonempty : time ≠ [])
    (head : time.head? ≠ some ':') : IsTime time := by
  cases tail with
  | nothing => contradiction
  | @digit _ c rest digit tail =>
      have one : IsDigits [c] := ⟨List.cons_ne_nil c [], List.forall_mem_singleton.mpr digit⟩
      obtain ⟨whole, part, split, clock, rfl | fraction⟩ := tail.exists_clock one
      · rw [← List.singleton_append, split, List.append_nil]
        exact .clock clock
      · rw [← List.singleton_append, split]
        exact .both clock fraction
  | @mark c d rest mark digit tail =>
      rcases mark with rfl | mark
      · exact absurd rfl head
      · exact .fraction (tail.isFraction mark digit)

end Duration
end Montage
