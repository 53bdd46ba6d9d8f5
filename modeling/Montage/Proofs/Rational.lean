import Montage.Proofs.Result

/-!
# Exact arithmetic

Over the rationals no operation has a fault except division by zero, and the order is
that of the numbers.  The three comparisons with tolerance say the same thing of the
difference of their sides: it is greater than a tolerance below zero.
-/

namespace Montage.Scalar

variable {left right x : ℚ}

@[simp]
theorem checked_rat (x : ℚ) : checked x = .ok x :=
  rfl

@[simp]
theorem toReal_rat (x : ℚ) : toReal x = .ok x :=
  rfl

@[simp]
theorem ofInt_rat (n : ℤ) : (ofInt n : ℚ) = n :=
  rfl

@[simp]
theorem isFinite_rat (x : ℚ) : isFinite x = true :=
  rfl

@[simp]
theorem lt_rat_iff : lt left right = true ↔ left < right := by
  simp [lt]

@[simp]
theorem le_rat_iff : le left right = true ↔ left ≤ right := by
  simp [le]

@[simp]
theorem eq_rat_iff : eq left right = true ↔ left = right := by
  rw [eq, Bool.and_eq_true, le_rat_iff, le_rat_iff, le_antisymm_iff]

@[simp]
theorem isSet_rat_iff : isSet x = true ↔ x ≠ 0 := by
  rw [isSet, Bool.not_eq_true', ← Bool.not_eq_true, eq_rat_iff, ofInt_rat, Int.cast_zero]

theorem magnitude_rat (x : ℚ) : magnitude x = |x| := by
  by_cases negative : x < 0
  · rw [magnitude, if_pos (lt_rat_iff.mpr negative), abs_of_neg negative]
  · rw [magnitude, if_neg (lt_rat_iff.not.mpr negative), abs_of_nonneg (not_lt.mp negative)]

theorem tolerance_rat : (tolerance : ℚ) = 1 / 10 ^ 12 := by
  norm_num [tolerance, ofDecimal, Rat.mkRat_eq_div]

theorem tolerance_rat_pos : (0 : ℚ) < tolerance := by
  rw [tolerance_rat]
  positivity

/-- A number is greater than minus a tolerance if it is positive or close to zero. -/
private theorem neg_tolerance_lt_iff :
    0 < x ∨ |x| < (tolerance : ℚ) ↔ -tolerance < x := by
  constructor
  · rintro (positive | close)
    · exact (neg_neg_of_pos tolerance_rat_pos).trans positive
    · exact (abs_lt.mp close).1
  · intro above
    by_cases positive : 0 < x
    · exact .inl positive
    · exact .inr (abs_lt.mpr ⟨above, (not_lt.mp positive).trans_lt tolerance_rat_pos⟩)

theorem gtApprox_rat_iff : gtApprox left right = true ↔ -tolerance < left - right := by
  simp only [gtApprox, Bool.or_eq_true, lt_rat_iff, magnitude_rat]
  exact neg_tolerance_lt_iff

theorem geApprox_rat_iff : geApprox left right = true ↔ -tolerance < left - right := by
  simp only [geApprox, Bool.or_eq_true, le_rat_iff, lt_rat_iff, magnitude_rat]
  constructor
  · rintro (nonneg | close)
    · exact (neg_neg_of_pos tolerance_rat_pos).trans_le nonneg
    · exact neg_tolerance_lt_iff.mp (.inr close)
  · intro above
    exact (neg_tolerance_lt_iff.mpr above).imp_left le_of_lt

theorem leApprox_rat_iff : leApprox left right = true ↔ -tolerance < right - left :=
  geApprox_rat_iff

/-- Division has a value exactly by a divisor other than zero. -/
theorem divide_rat_eq_ok_iff : divide left right = .ok x ↔ right ≠ 0 ∧ left / right = x := by
  by_cases zero : right = 0
  · simp [divide, zero]
  · simp [divide, zero]

theorem floor_rat (x : ℚ) : floor x = .ok ⌊x⌋ := by
  by_cases whole : x.den = 1
  · have floored : ⌊x⌋ = x.num := by
      conv_lhs => rw [← Rat.coe_int_num_of_den_eq_one whole]
      exact Int.floor_intCast x.num
    simp [floor, toWhole, whole?, whole, floored]
  · simp [floor, toWhole, whole?, whole, exact, Rat.floor_def, Rat.floor_def']

/-! ## Extremes -/

private theorem greatest_cons_rat (start next : ℚ) (rest : List ℚ) :
    greatest start (next :: rest) = greatest (max start next) rest := by
  rw [greatest, greatest, List.foldl_cons]
  congr 1
  by_cases less : start < next
  · rw [if_pos (lt_rat_iff.mpr less), max_eq_right less.le]
  · rw [if_neg (lt_rat_iff.not.mpr less), max_eq_left (not_lt.mp less)]

/-- The greatest of some numbers is none of them less. -/
theorem le_greatest_rat (start : ℚ) (rest : List ℚ) :
    ∀ x ∈ start :: rest, x ≤ greatest start rest := by
  induction rest generalizing start with
  | nil => simp [greatest]
  | cons next rest ih =>
      intro x member
      rw [greatest_cons_rat]
      have head := ih (max start next) (max start next) List.mem_cons_self
      simp only [List.mem_cons] at member
      rcases member with rfl | rfl | member
      · exact (le_max_left _ _).trans head
      · exact (le_max_right _ _).trans head
      · exact ih (max start next) x (List.mem_cons_of_mem _ member)

/-- The greatest of some numbers is one of them. -/
theorem greatest_rat_mem (start : ℚ) (rest : List ℚ) : greatest start rest ∈ start :: rest := by
  induction rest generalizing start with
  | nil => simp [greatest]
  | cons next rest ih =>
      rw [greatest_cons_rat]
      rcases List.mem_cons.mp (ih (max start next)) with same | member
      · rw [same]
        rcases max_choice start next with first | second
        · simp [first]
        · simp [second]
      · exact List.mem_cons_of_mem _ (List.mem_cons_of_mem _ member)

private theorem least_cons_rat (start next : ℚ) (rest : List ℚ) :
    least start (next :: rest) = least (min start next) rest := by
  rw [least, least, List.foldl_cons]
  congr 1
  by_cases less : next < start
  · rw [if_pos (lt_rat_iff.mpr less), min_eq_right less.le]
  · rw [if_neg (lt_rat_iff.not.mpr less), min_eq_left (not_lt.mp less)]

/-- The least of some numbers is not greater than any of them. -/
theorem least_rat_le (start : ℚ) (rest : List ℚ) :
    ∀ x ∈ start :: rest, least start rest ≤ x := by
  induction rest generalizing start with
  | nil => simp [least]
  | cons next rest ih =>
      intro x member
      rw [least_cons_rat]
      have head := ih (min start next) (min start next) List.mem_cons_self
      simp only [List.mem_cons] at member
      rcases member with rfl | rfl | member
      · exact head.trans (min_le_left _ _)
      · exact head.trans (min_le_right _ _)
      · exact ih (min start next) x (List.mem_cons_of_mem _ member)

/-- The least of some numbers is one of them. -/
theorem least_rat_mem (start : ℚ) (rest : List ℚ) : least start rest ∈ start :: rest := by
  induction rest generalizing start with
  | nil => simp [least]
  | cons next rest ih =>
      rw [least_cons_rat]
      rcases List.mem_cons.mp (ih (min start next)) with same | member
      · rw [same]
        rcases min_choice start next with first | second
        · simp [first]
        · simp [second]
      · exact List.mem_cons_of_mem _ (List.mem_cons_of_mem _ member)

/-- The greatest number does not depend on the order. -/
theorem greatest_eq_of_perm {start other : ℚ} {rest others : List ℚ}
    (perm : (start :: rest).Perm (other :: others)) :
    greatest start rest = greatest other others :=
  le_antisymm (le_greatest_rat other others _ (perm.mem_iff.mp (greatest_rat_mem start rest)))
    (le_greatest_rat start rest _ (perm.mem_iff.mpr (greatest_rat_mem other others)))

/-- The least number does not depend on the order. -/
theorem least_eq_of_perm {start other : ℚ} {rest others : List ℚ}
    (perm : (start :: rest).Perm (other :: others)) : least start rest = least other others :=
  le_antisymm (least_rat_le start rest _ (perm.mem_iff.mpr (least_rat_mem other others)))
    (least_rat_le other others _ (perm.mem_iff.mp (least_rat_mem start rest)))

end Montage.Scalar
