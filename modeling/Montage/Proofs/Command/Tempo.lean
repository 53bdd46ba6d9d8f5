import Mathlib
import Montage.Command.Tempo
import Montage.Proofs.Number.Compact

/-!
# The shortest chain of tempo filters

A chain of equal filters changes the speed by a factor if the root of that degree lies between a
half and two, which is so exactly when the factor lies between two powers of two.  Some chain is
long enough for every positive speed, and the search ends with the shortest one before it gives
up.  Each filter shows the factor of its text, which is rounded to six places.
-/

namespace Montage.Tempo

variable {speed : ℚ} {count : ℕ}

/-! ## The search -/

/-- The search ends with the first count that passes, unless it is too far away. -/
theorem firstFrom?_eq_some_iff {test : ℕ → Bool} {first steps : ℕ} :
    firstFrom? test first steps = some count ↔
      IsLeast {count | first ≤ count ∧ test count = true} count ∧ count < first + steps := by
  induction steps generalizing first with
  | zero =>
      constructor
      · intro found
        cases found
      · rintro ⟨⟨⟨begun, _⟩, _⟩, near⟩
        exact absurd near begun.not_gt
  | succ steps ih =>
      rw [firstFrom?]
      split
      · rename_i passes
        have least : IsLeast {count | first ≤ count ∧ test count = true} first :=
          ⟨⟨le_rfl, passes⟩, fun _ found => found.1⟩
        constructor
        · intro found
          cases found
          exact ⟨least, by omega⟩
        · rintro ⟨alsoLeast, _⟩
          rw [least.unique alsoLeast]
      · rename_i fails
        have same : {count | first + 1 ≤ count ∧ test count = true} =
            {count | first ≤ count ∧ test count = true} := by
          ext count
          constructor
          · rintro ⟨begun, passes⟩
            exact ⟨by omega, passes⟩
          · rintro ⟨begun, passes⟩
            have different : count ≠ first := by
              rintro rfl
              exact fails passes
            exact ⟨by omega, passes⟩
        rw [ih, same]
        exact and_congr_right fun _ => by omega

/-! ## Powers and roots -/

/-- A chain covers the speeds between two powers of two. -/
theorem covers_iff (positive : 0 < speed) :
    covers speed count = true ↔ speed ∈ Set.Icc ((2 : ℚ) ^ count)⁻¹ (2 ^ count) := by
  have speed_eq : speed = (speed.num.natAbs : ℚ) / speed.den := by
    conv_lhs => rw [← Rat.num_div_den speed]
    rw [Nat.cast_natAbs, abs_of_pos (Rat.num_pos.mpr positive)]
  have denominator : (0 : ℚ) < speed.den := Nat.cast_pos.mpr speed.den_pos
  have power : (0 : ℚ) < 2 ^ count := by positivity
  have lower : ((2 : ℚ) ^ count)⁻¹ ≤ speed ↔ speed.den ≤ speed.num.natAbs * 2 ^ count := by
    conv_lhs => rw [speed_eq]
    rw [le_div_iff₀ denominator, inv_mul_le_iff₀ power, mul_comm]
    exact_mod_cast Iff.rfl
  have upper : speed ≤ 2 ^ count ↔ speed.num.natAbs ≤ speed.den * 2 ^ count := by
    conv_lhs => rw [speed_eq]
    rw [div_le_iff₀ denominator, mul_comm]
    exact_mod_cast Iff.rfl
  rw [Set.mem_Icc, lower, upper, covers, Bool.and_eq_true, decide_eq_true_iff, decide_eq_true_iff]
  rfl

/-- A root lies between a half and two exactly when the number lies between their powers. -/
theorem root_mem_iff {x : ℝ} (positive : 0 < x) (counts : 0 < count) :
    x ^ (1 / (count : ℝ)) ∈ Set.Icc (1 / 2 : ℝ) 2 ↔
      x ∈ Set.Icc ((2 : ℝ) ^ count)⁻¹ (2 ^ count) := by
  have degree : (0 : ℝ) < count := Nat.cast_pos.mpr counts
  rw [Set.mem_Icc, Set.mem_Icc, one_div, one_div,
    Real.le_rpow_inv_iff_of_pos (by norm_num) positive.le degree,
    Real.rpow_inv_le_iff_of_pos positive.le (by norm_num) degree, Real.rpow_natCast,
    Real.rpow_natCast, inv_pow]

/-- Some chain is long enough, and it is shorter than the search is long. -/
theorem exists_covers (positive : 0 < speed) :
    ∃ count, 1 ≤ count ∧ covers speed count = true ∧ count < 1 + bound speed := by
  have numerator : 1 ≤ speed.num.natAbs := Int.natAbs_pos.mpr (Rat.num_pos.mpr positive).ne'
  have denominator : 1 ≤ speed.den := speed.den_pos
  have small {n length : ℕ} (long : n.log2 ≤ length) : n ≤ Nat.pow 2 (length + 1) :=
    Nat.lt_log2_self.le.trans (Nat.pow_le_pow_right (by norm_num) (by omega))
  have bound_eq : bound speed = speed.num.natAbs.log2 + speed.den.log2 + 4 := rfl
  refine ⟨max speed.num.natAbs.log2 speed.den.log2 + 1, by omega, ?_, by omega⟩
  rw [covers, Bool.and_eq_true, decide_eq_true_iff, decide_eq_true_iff]
  constructor
  · exact (small (le_max_right _ _)).trans (Nat.le_mul_of_pos_left _ numerator)
  · exact (small (le_max_left _ _)).trans (Nat.le_mul_of_pos_left _ denominator)

/-! ## The text of a filter -/

/-- The factor that a filter shows: a decimal behind the name of a tempo filter. -/
def shown? (filter : String) : Option ℚ :=
  match filter.toList.span (· != '=') with
  | (name, _ :: decimal) =>
      if String.ofList name = "atempo" then DecimalLiteral.number? (String.ofList decimal)
      else none
  | (_, []) => none

/-- A filter shows its factor, rounded to six places. -/
theorem shown?_filterText (factor : ℚ) :
    shown? (filterText factor) = some (Fixed.nearest factor) := by
  have written : (filterText factor).toList.span (· != '=') =
      ("atempo".toList, '=' :: (Scalar.compact factor).toList) := by
    rw [filterText, String.toList_append]
    rfl
  rw [shown?, written]
  dsimp only
  rw [String.ofList_toList, if_pos rfl, String.ofList_toList]
  exact Fixed.number?_compact factor

/-- One filter can change the speed by the factors from a half to two. -/
theorem isPossible_iff {factor : ℚ} : isPossible factor = true ↔ factor ∈ Set.Icc (1 / 2 : ℚ) 2 := by
  have half : (Scalar.ofDecimal 5 1 : ℚ) = 1 / 2 := by
    norm_num [Scalar.ofDecimal, Rat.mkRat_eq_div]
  rw [isPossible, Bool.and_eq_true, Scalar.le_rat_iff, Scalar.le_rat_iff, half, Scalar.ofInt_rat,
    Set.mem_Icc]
  rfl

/-- A factor that is possible is possible as it is shown. -/
theorem nearest_mem_of_isPossible {factor : ℚ} (possible : isPossible factor = true) :
    Fixed.nearest factor ∈ Set.Icc (1 / 2 : ℚ) 2 :=
  Fixed.nearest_mem_Icc ⟨500000, by norm_num⟩ ⟨2000000, by norm_num⟩ (isPossible_iff.mp possible)

/-! ## The chain for a speed -/

variable [Analytic ℚ]

/-- The lengths of chains that can change the speed by a factor. -/
def lengths (speed : ℚ) : Set ℕ :=
  {count | 1 ≤ count ∧ speed ∈ Set.Icc ((2 : ℚ) ^ count)⁻¹ (2 ^ count)}

/-- The factors of chains for a speed are tested as if their roots were exact. -/
def TestsExactly (speed : ℚ) : Prop :=
  ∀ count : ℕ, 0 < count →
    (isPossible (Analytic.root speed count) = true ↔
      (speed : ℝ) ^ (1 / (count : ℝ)) ∈ Set.Icc (1 / 2 : ℝ) 2)

/-- A chain of equal filters for a speed, as short as it can be. -/
structure IsShortestChain (speed : ℚ) (count : ℕ) : Prop where
  least : IsLeast (lengths speed) count
  factors_eq : factors speed = .ok (List.replicate count (Analytic.root speed count))
  filters : (factors speed).map (List.map filterText) =
    .ok (List.replicate count (filterText (Analytic.root speed count)))
  shows : shown? (filterText (Analytic.root speed count)) =
    some (Fixed.nearest (Analytic.root speed count))
  /-- The factor that each filter shows is one that a filter can have. -/
  shown_mem : Fixed.nearest (Analytic.root speed count) ∈ Set.Icc (1 / 2 : ℚ) 2
  factor_mem : (speed : ℝ) ^ (1 / (count : ℝ)) ∈ Set.Icc (1 / 2 : ℝ) 2
  prod_eq : (List.replicate count ((speed : ℝ) ^ (1 / (count : ℝ)))).prod = speed

/-- A length is possible exactly if the speed lies between two powers of two. -/
theorem TestsExactly.isPossible_iff (exactly : TestsExactly speed) (positive : 0 < speed)
    (counts : 0 < count) :
    isPossible (Analytic.root speed count) = true ↔
      speed ∈ Set.Icc ((2 : ℚ) ^ count)⁻¹ (2 ^ count) := by
  have lower : ((2 : ℝ) ^ count)⁻¹ ≤ speed ↔ ((2 : ℚ) ^ count)⁻¹ ≤ speed := by
    rw [← Rat.cast_le (K := ℝ), Rat.cast_inv, Rat.cast_pow, Rat.cast_ofNat]
  have upper : (speed : ℝ) ≤ 2 ^ count ↔ speed ≤ 2 ^ count := by
    rw [← Rat.cast_le (K := ℝ), Rat.cast_pow, Rat.cast_ofNat]
  rw [exactly count counts, root_mem_iff (Rat.cast_pos.mpr positive) counts, Set.mem_Icc,
    Set.mem_Icc, lower, upper]

/-- Every positive speed that is not normal has a shortest chain, and it is found. -/
theorem exists_isShortestChain (positive : 0 < speed)
    (changed : Scalar.isClose speed (Scalar.ofInt 1) = false) (exactly : TestsExactly speed) :
    ∃ count, IsShortestChain speed count := by
  have tested : {count : ℕ | 1 ≤ count ∧ isPossible (Analytic.root speed count) = true} =
      lengths speed := by
    ext count
    exact and_congr_right fun counts => exactly.isPossible_iff positive counts
  obtain ⟨long, counts, covered, near⟩ := exists_covers positive
  have isLength : long ∈ lengths speed := ⟨counts, (covers_iff positive).mp covered⟩
  have least : IsLeast (lengths speed) (sInf (lengths speed)) := isLeast_csInf ⟨long, isLength⟩
  generalize sInf (lengths speed) = count at least
  have found : shortest? speed (fun count => isPossible (Analytic.root speed count)) =
      some count := by
    rw [shortest?, firstFrom?_eq_some_iff, tested]
    exact ⟨least, (least.2 isLength).trans_lt near⟩
  obtain ⟨filtered, within⟩ := least.1
  have real : (0 : ℝ) < speed := Rat.cast_pos.mpr positive
  have degree : (count : ℝ) ≠ 0 := Nat.cast_ne_zero.mpr (Nat.ne_of_gt filtered)
  have possible : isPossible (Analytic.root speed count) = true :=
    (exactly.isPossible_iff positive filtered).mpr within
  have isAbove : Scalar.lt (Scalar.ofInt 0) speed = true := by simpa using positive
  have factors_eq : factors speed = .ok (List.replicate count (Analytic.root speed count)) := by
    rw [factors, Scalar.toReal_rat, Result.ok_bind, if_neg (Bool.eq_false_iff.mp changed),
      if_pos isAbove, found]
  refine ⟨count, least, factors_eq, ?_, shown?_filterText _, nearest_mem_of_isPossible possible,
    (exactly count filtered).mp possible, ?_⟩
  · rw [factors_eq, Except.map, List.map_replicate]
  · rw [List.prod_replicate, ← Real.rpow_natCast, ← Real.rpow_mul real.le,
      one_div_mul_cancel degree, Real.rpow_one]

/-- Roots that are cut to six places. -/
@[reducible]
noncomputable def cutRoots : Analytic ℚ where
  sine _ := 0
  cosine _ := 1
  root x degree := ⌊(x : ℝ) ^ (1 / (degree : ℝ)) * 10 ^ 6⌋ / 10 ^ 6

omit [Analytic ℚ] in
/-- Cutting leaves a number up to one on the same side of a half. -/
theorem isPossible_cut_iff {x : ℝ} (small : x ≤ 1) :
    isPossible ((⌊x * 10 ^ 6⌋ : ℚ) / 10 ^ 6) = true ↔ x ∈ Set.Icc (1 / 2 : ℝ) 2 := by
  have lower : (1 / 2 : ℚ) ≤ (⌊x * 10 ^ 6⌋ : ℚ) / 10 ^ 6 ↔ 1 / 2 ≤ x := by
    calc (1 / 2 : ℚ) ≤ (⌊x * 10 ^ 6⌋ : ℚ) / 10 ^ 6
        ↔ ((500000 : ℤ) : ℚ) ≤ ⌊x * 10 ^ 6⌋ := by
          rw [le_div_iff₀ (by norm_num)]
          norm_num
      _ ↔ ((500000 : ℤ) : ℝ) ≤ x * 10 ^ 6 := by rw [Int.cast_le, Int.le_floor]
      _ ↔ 1 / 2 ≤ x := by constructor <;> intro bound <;> norm_num at bound ⊢ <;> linarith
  have below : ⌊x * 10 ^ 6⌋ ≤ 10 ^ 6 := by
    rw [Int.floor_le_iff]
    push_cast
    linarith
  have upper : (⌊x * 10 ^ 6⌋ : ℚ) / 10 ^ 6 ≤ 2 := by
    rw [div_le_iff₀ (by norm_num)]
    calc (⌊x * 10 ^ 6⌋ : ℚ) ≤ ((10 ^ 6 : ℤ) : ℚ) := Int.cast_le.mpr below
      _ ≤ 2 * 10 ^ 6 := by norm_num
  rw [isPossible_iff, Set.mem_Icc, Set.mem_Icc, lower]
  exact and_congr_right fun _ => iff_of_true upper (small.trans (by norm_num))

omit [Analytic ℚ] in
/-- A fifth of normal speed takes three filters. -/
theorem isShortestChain_fifth :
    let _ : Analytic ℚ := cutRoots
    Scalar.isClose (1 / 5 : ℚ) (Scalar.ofInt 1) = false ∧ TestsExactly (1 / 5) ∧
      IsShortestChain (1 / 5) 3 := by
  intro _
  have changed : Scalar.isClose (1 / 5 : ℚ) (Scalar.ofInt 1) = false := by decide +kernel
  have exactly : TestsExactly (1 / 5) := by
    intro count counts
    exact isPossible_cut_iff (Real.rpow_le_one (by norm_num) (by norm_num) (by positivity))
  obtain ⟨count, chain⟩ := exists_isShortestChain (by norm_num) changed exactly
  have three : IsLeast (lengths (1 / 5)) 3 := by
    constructor
    · constructor <;> norm_num
    · rintro count ⟨_, low, _⟩
      by_contra short
      have power : (2 : ℚ) ^ count ≤ 2 ^ 2 := pow_le_pow_right₀ (by norm_num) (by omega)
      have inverse := inv_anti₀ (by positivity) power
      linarith
  cases three.unique chain.least
  exact ⟨changed, exactly, chain⟩

end Montage.Tempo
