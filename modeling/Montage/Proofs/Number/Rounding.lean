import Montage.Number.Exact
import Montage.Proofs.Rational

/-!
# Rounding half to even

A number is rounded to the whole number nearest to it, and to the even one if two are
nearest.  There is only one such number for each, and `roundHalfEven` finds it for a
quotient of natural numbers.
-/

namespace Montage

variable {x : ℚ} {n m : ℤ}

/-- No whole number is nearer, and of two that are nearest this is the even one. -/
structure RoundsTo (x : ℚ) (n : ℤ) : Prop where
  nearest : ∀ m : ℤ, |x - n| ≤ |x - m|
  even : ∀ m : ℤ, m ≠ n → |x - m| = |x - n| → Even n

namespace RoundsTo

/-- Of two whole numbers one is at least a half away. -/
theorem half_le_of_close (close : |x - n| ≤ 1 / 2) (different : m ≠ n) : 1 / 2 ≤ |x - m| := by
  have apart : (1 : ℚ) ≤ |(n : ℚ) - m| := by
    have whole : (1 : ℤ) ≤ |n - m| := Int.one_le_abs (sub_ne_zero.mpr different.symm)
    exact_mod_cast whole
  have triangle : |(n : ℚ) - m| ≤ |x - n| + |x - m| := by
    rw [abs_sub_comm x n]
    exact abs_sub_le _ x _
  linarith

/-- A whole number at most a half away, and even if it is a half away. -/
theorem of_close (close : |x - n| ≤ 1 / 2) (even : |x - n| = 1 / 2 → Even n) : RoundsTo x n where
  nearest m := by
    by_cases same : m = n
    · rw [same]
    · exact close.trans (half_le_of_close close same)
  even m different same := even (close.antisymm (same ▸ half_le_of_close close different))

/-- A part that is at most a half is dropped. -/
theorem of_part_le {part : ℚ} (nonneg : 0 ≤ part) (small : part ≤ 1 / 2)
    (even : part = 1 / 2 → Even n) : RoundsTo (n + part) n := by
  have distance : |n + part - n| = part := by rw [add_sub_cancel_left, abs_of_nonneg nonneg]
  exact of_close (by rwa [distance]) (by rwa [distance])

/-- A part that is at least a half is filled up to one. -/
theorem of_le_part {part : ℚ} (le_one : part ≤ 1) (large : 1 / 2 ≤ part)
    (even : part = 1 / 2 → Even (n + 1)) : RoundsTo (n + part) (n + 1) := by
  have distance : |n + part - (n + 1 : ℤ)| = 1 - part := by
    rw [Int.cast_add, Int.cast_one, add_sub_add_left_eq_sub, abs_sub_comm,
      abs_of_nonneg (sub_nonneg.mpr le_one)]
  apply of_close
  · rw [distance]
    linarith
  · intro half
    rw [distance] at half
    exact even (by linarith)

theorem intCast (n : ℤ) : RoundsTo n n :=
  of_close (by norm_num) (by norm_num)

/-- A number is rounded to one whole number only. -/
theorem unique (rounds : RoundsTo x n) (roundsToo : RoundsTo x m) : n = m := by
  by_contra different
  have same : |x - n| = |x - m| := (rounds.nearest m).antisymm (roundsToo.nearest n)
  obtain ⟨k, rfl⟩ := rounds.even m (Ne.symm different) same.symm
  obtain ⟨l, rfl⟩ := roundsToo.even (k + k) different same
  -- the number lies in the middle between the two, which is a whole number too
  have middle : x = ((k + l : ℤ) : ℚ) := by
    rcases abs_eq_abs.mp same with equal | opposite
    · have : ((k + k : ℤ) : ℚ) = (l + l : ℤ) := by linarith
      exact absurd (by exact_mod_cast this) different
    · push_cast at opposite ⊢
      linarith
  have none : |x - ((k + k : ℤ) : ℚ)| ≤ 0 := by
    simpa [middle] using rounds.nearest (k + l)
  have equal : ((k + l : ℤ) : ℚ) = (k + k : ℤ) := by
    rw [← middle]
    exact sub_eq_zero.mp (abs_nonpos_iff.mp none)
  have : k + l = k + k := by exact_mod_cast equal
  omega

/-- A number is as far from a whole number as their opposites are from each other. -/
theorem distance_neg (x : ℚ) (n : ℤ) : |-x - n| = |x - (-n : ℤ)| := by
  rw [Int.cast_neg, sub_neg_eq_add, ← abs_neg, neg_sub, sub_neg_eq_add, add_comm]

theorem neg (rounds : RoundsTo x n) : RoundsTo (-x) (-n) where
  nearest m := by
    rw [distance_neg, distance_neg, neg_neg]
    exact rounds.nearest (-m)
  even m different same := by
    rw [distance_neg, distance_neg, neg_neg] at same
    exact (rounds.even (-m) (by omega) same).neg

/-- Rounding does not go below a whole number. -/
theorem le_of_le (rounds : RoundsTo x n) (below : (m : ℚ) ≤ x) : m ≤ n := by
  by_contra short
  have passed : (n : ℚ) < m := Int.cast_lt.mpr (not_le.mp short)
  have near := rounds.nearest m
  rw [abs_of_nonneg (sub_nonneg.mpr below), abs_of_pos (sub_pos.mpr (passed.trans_le below))] at near
  linarith

/-- Rounding does not go above a whole number. -/
theorem le_of_ge (rounds : RoundsTo x n) (above : x ≤ m) : n ≤ m := by
  have below : ((-m : ℤ) : ℚ) ≤ -x := by
    rw [Int.cast_neg]
    exact neg_le_neg above
  exact neg_le_neg_iff.mp (rounds.neg.le_of_le below)

end RoundsTo

namespace Binary64

/-- A quotient is rounded down if at most half is left over, and up if at least half is; if it
is half, to an even number. -/
theorem roundHalfEven_cases (numerator denominator : ℕ) :
    roundHalfEven numerator denominator = numerator / denominator ∧
        2 * (numerator % denominator) ≤ denominator ∧
        (2 * (numerator % denominator) = denominator → Even (numerator / denominator)) ∨
      roundHalfEven numerator denominator = numerator / denominator + 1 ∧
        denominator ≤ 2 * (numerator % denominator) ∧
        (2 * (numerator % denominator) = denominator → Even (numerator / denominator + 1)) := by
  rw [roundHalfEven]
  split
  case isTrue below => exact .inl ⟨rfl, below.le, fun half => absurd half below.ne⟩
  case isFalse notBelow =>
    split
    case isTrue above => exact .inr ⟨rfl, above.le, fun half => absurd half above.ne'⟩
    case isFalse notAbove =>
      split
      case isTrue even =>
        exact .inl ⟨rfl, not_lt.mp notAbove, fun _ => Nat.even_iff.mpr (by simpa using even)⟩
      case isFalse odd =>
        refine .inr ⟨rfl, not_lt.mp notBelow, fun _ => ?_⟩
        rw [Nat.even_add_one, Nat.even_iff]
        simpa using odd

/-- A quotient is a whole number and the part that is left over. -/
theorem div_eq_add_part (numerator : ℕ) {denominator : ℕ} (positive : 0 < denominator) :
    (numerator : ℚ) / denominator =
      (numerator / denominator : ℕ) + ((numerator % denominator : ℕ) : ℚ) / denominator := by
  have divisor : (denominator : ℚ) ≠ 0 := Nat.cast_ne_zero.mpr positive.ne'
  have division : (numerator : ℚ) =
      denominator * (numerator / denominator : ℕ) + (numerator % denominator : ℕ) := by
    exact_mod_cast (Nat.div_add_mod numerator denominator).symm
  conv_lhs => rw [division, add_div, mul_div_cancel_left₀ _ divisor]

/-- A quotient is rounded to the nearest whole number, a half to the even one. -/
theorem roundsTo_roundHalfEven (numerator : ℕ) {denominator : ℕ} (positive : 0 < denominator) :
    RoundsTo (numerator / denominator) (roundHalfEven numerator denominator : ℕ) := by
  have divisor : (0 : ℚ) < denominator := Nat.cast_pos.mpr positive
  have le_half_iff : ((numerator % denominator : ℕ) : ℚ) / denominator ≤ 1 / 2 ↔
      2 * (numerator % denominator) ≤ denominator := by
    rw [div_le_div_iff₀ divisor two_pos, one_mul, mul_comm]
    exact_mod_cast Iff.rfl
  have half_le_iff : 1 / 2 ≤ ((numerator % denominator : ℕ) : ℚ) / denominator ↔
      denominator ≤ 2 * (numerator % denominator) := by
    rw [div_le_div_iff₀ two_pos divisor, one_mul, mul_comm]
    exact_mod_cast Iff.rfl
  have half_iff : ((numerator % denominator : ℕ) : ℚ) / denominator = 1 / 2 ↔
      2 * (numerator % denominator) = denominator := by
    rw [le_antisymm_iff, le_half_iff, half_le_iff, ← le_antisymm_iff]
  rw [div_eq_add_part numerator positive, ← Int.cast_natCast]
  rcases roundHalfEven_cases numerator denominator with
    ⟨rounded, close, even⟩ | ⟨rounded, close, even⟩
  · rw [rounded]
    refine RoundsTo.of_part_le (by positivity) (le_half_iff.mpr close) fun half => ?_
    exact (Int.even_coe_nat _).mpr (even (half_iff.mp half))
  · rw [rounded, Nat.cast_add, Nat.cast_one]
    refine RoundsTo.of_le_part ?_ (half_le_iff.mpr close) fun half => ?_
    · rw [div_le_one divisor, Nat.cast_le]
      exact (Nat.mod_lt numerator positive).le
    · exact_mod_cast even (half_iff.mp half)

end Binary64

end Montage
