import Mathlib.Algebra.Group.Nat.Defs
import BookSearch.Proofs.Binary64.TotalOrder

/-!
Whole numbers up to 2^53 among the binary64 numbers. Each has just one representation, their sums are exact,
the total order ranks them by size, and rounding to a count gives them back.
-/
namespace BookSearch
namespace Binary64

structure Is (x : Binary64) (n : Nat) : Prop where
  unsigned : x.isNegative = false
  finite : x.magnitude < infinite
  value : units x.magnitude = n * scale

theorem leadingBit_eq : leadingBit = 2 ^ 52 := rfl

theorem scale_of_exponent {e : Nat} (exponent : e = 1074) : 2 ^ e = scale := by
  rw [← Nat.one_shiftLeft, exponent]
  rfl

theorem scale_pos : 0 < scale := by decide +kernel

theorem infinite_lt_signBit : infinite < signBit := by decide

theorem significand_finite {significand shift : Nat} (high : significand < 2 * leadingBit)
    (fits : shift ≤ 2045) : shift * leadingBit + significand < infinite := by
  rw [infinite, leadingBit_eq] at *
  omega

section Magnitudes

variable {significand shift : Nat} (low : leadingBit ≤ significand) (high : significand < 2 * leadingBit)
include low high

theorem log2_of_significand : (significand * 2 ^ shift).log2 = 52 + shift := by
  rw [leadingBit_eq] at low high
  have positive : 0 < 2 ^ shift := Nat.two_pow_pos shift
  have nonzero : significand * 2 ^ shift ≠ 0 := Nat.ne_of_gt (Nat.mul_pos (by omega) positive)
  rw [Nat.log2_eq_iff nonzero]
  constructor
  · rw [Nat.pow_add]
    exact Nat.mul_le_mul_right _ low
  · rw [Nat.add_right_comm, Nat.pow_add]
    exact Nat.mul_lt_mul_of_pos_right (by omega) positive

/-- What is written with 53 binary digits, the first of which is not zero, is not rounded. -/
theorem nearest_of_significand (fits : shift ≤ 2045) :
    nearest (significand * 2 ^ shift) 1 = shift * leadingBit + significand := by
  have positive : 0 < 2 ^ shift := Nat.two_pow_pos shift
  have digits : (if significand * 2 ^ shift < 2 * leadingBit then 0
      else (significand * 2 ^ shift).log2 - 52) = shift := by
    rw [log2_of_significand low high]
    split
    · rename_i small
      cases shift with
      | zero => rfl
      | succ rest =>
        have grown : significand * 2 ≤ significand * 2 ^ (rest + 1) := by
          rw [Nat.pow_succ]
          exact Nat.mul_le_mul_left _ (Nat.le_mul_of_pos_left _ (Nat.two_pow_pos rest))
        omega
    · omega
  have bounded := Nat.le_of_lt (significand_finite high fits)
  simp only [nearest, Nat.div_one, digits, Nat.one_shiftLeft, Nat.mul_div_cancel _ positive,
    Nat.mul_mod_left]
  have exact : ¬ ((decide (2 ^ shift < 2 * 0) || (decide (2 * 0 = 2 ^ shift) && decide (significand % 2 = 1))) =
      true) := by
    simp only [Bool.or_eq_true, Bool.and_eq_true, decide_eq_true_eq]
    omega
  rw [if_neg exact, Nat.min_eq_left bounded]

theorem units_of_significand : units (shift * leadingBit + significand) = significand * 2 ^ shift := by
  have exponent : (shift * leadingBit + significand) / leadingBit = shift + 1 := by
    rw [leadingBit_eq] at *
    omega
  have fraction : leadingBit + (shift * leadingBit + significand) % leadingBit = significand := by
    rw [leadingBit_eq] at *
    omega
  simp only [units, exponent, fraction, Nat.shiftLeft_eq]
  rw [if_neg (by omega), Nat.add_sub_cancel]

end Magnitudes

theorem units_lt_power (a : Nat) : units a < leadingBit * 2 ^ (a / leadingBit) := by
  have fraction : a % leadingBit < leadingBit := Nat.mod_lt a (by decide)
  simp only [units, Nat.shiftLeft_eq]
  split
  · rename_i denormal
    rw [denormal, Nat.pow_zero, Nat.mul_one]
    rw [← Nat.mod_eq_of_lt (Nat.lt_of_div_eq_zero (by decide) denormal)]
    exact fraction
  · rename_i normal
    obtain ⟨e, exponent⟩ := Nat.exists_eq_succ_of_ne_zero normal
    rw [exponent, Nat.succ_eq_add_one, Nat.add_sub_cancel, Nat.pow_succ, Nat.mul_comm (2 ^ e) 2,
      ← Nat.mul_assoc]
    exact Nat.mul_lt_mul_of_pos_right (by omega) (Nat.two_pow_pos e)

theorem power_le_units {b e : Nat} (exponent : b / leadingBit = e + 1) : leadingBit * 2 ^ e ≤ units b := by
  simp only [units, exponent, Nat.shiftLeft_eq]
  rw [if_neg (by omega), Nat.add_sub_cancel]
  exact Nat.mul_le_mul_right _ (Nat.le_add_right _ _)

theorem units_lt_same_exponent {a b : Nat} (same : a / leadingBit = b / leadingBit) (less : a < b) :
    units a < units b := by
  have fraction : a % leadingBit < b % leadingBit := by
    rw [leadingBit_eq] at *
    omega
  simp only [units, same, Nat.shiftLeft_eq]
  split
  · exact less
  · exact Nat.mul_lt_mul_of_pos_right (by omega) (Nat.two_pow_pos _)

theorem units_lt {a b : Nat} (less : a < b) : units a < units b := by
  by_cases same : a / leadingBit = b / leadingBit
  · exact units_lt_same_exponent same less
  · have exponents : a / leadingBit ≤ b / leadingBit := Nat.div_le_div_right (Nat.le_of_lt less)
    have above : a / leadingBit < b / leadingBit := Nat.lt_of_le_of_ne exponents same
    obtain ⟨e, exponent⟩ := Nat.exists_eq_succ_of_ne_zero (Nat.ne_zero_of_lt above)
    rw [exponent] at above
    calc units a
        < leadingBit * 2 ^ (a / leadingBit) := units_lt_power a
      _ ≤ leadingBit * 2 ^ e := Nat.mul_le_mul_left _ (Nat.pow_le_pow_right (by decide) (Nat.le_of_lt_succ above))
      _ ≤ units b := power_le_units exponent

theorem units_lt_iff (a b : Nat) : units a < units b ↔ a < b := by
  constructor
  · intro less
    by_cases order : a < b
    · exact order
    · rcases Nat.eq_or_lt_of_le (Nat.not_lt.mp order) with same | more
      · rw [same] at less
        omega
      · have reversed := units_lt more
        omega
  · exact units_lt

theorem significand_of_few_digits {n : Nat} (positive : 0 < n) (small : n < 2 ^ 53) :
    ∃ significand shift, leadingBit ≤ significand ∧ significand < 2 * leadingBit ∧ shift ≤ 2045 ∧
      n * scale = significand * 2 ^ shift := by
  have digits : n.log2 ≤ 52 := by
    have bound := (Nat.log2_lt (by omega)).mpr small
    omega
  refine ⟨n * 2 ^ (52 - n.log2), n.log2 + 1022, ?_, ?_, by omega, ?_⟩
  · calc leadingBit
        = 2 ^ n.log2 * 2 ^ (52 - n.log2) := by rw [← Nat.pow_add, Nat.add_sub_of_le digits, leadingBit_eq]
      _ ≤ n * 2 ^ (52 - n.log2) := Nat.mul_le_mul_right _ (Nat.log2_self_le (by omega))
  · calc n * 2 ^ (52 - n.log2)
        < 2 ^ (n.log2 + 1) * 2 ^ (52 - n.log2) :=
          Nat.mul_lt_mul_of_pos_right Nat.lt_log2_self (Nat.two_pow_pos _)
      _ = 2 * leadingBit := by
          rw [← Nat.pow_add, leadingBit_eq, ← Nat.pow_succ']
          congr 1
          omega
  · have exponents : 52 - n.log2 + (n.log2 + 1022) = 1074 := by omega
    rw [Nat.mul_assoc, ← Nat.pow_add, scale_of_exponent exponents]

theorem whole_significand {n : Nat} (positive : 0 < n) (small : n ≤ 2 ^ 53) :
    ∃ significand shift, leadingBit ≤ significand ∧ significand < 2 * leadingBit ∧ shift ≤ 2045 ∧
      n * scale = significand * 2 ^ shift := by
  rcases Nat.lt_or_eq_of_le small with below | rfl
  · exact significand_of_few_digits positive below
  · -- one digit more than fits, but it is a zero
    obtain ⟨e, exponent⟩ : ∃ e, e = 1074 := ⟨_, rfl⟩
    refine ⟨leadingBit, 1 + e, Nat.le_refl _, by decide, by omega, ?_⟩
    rw [Nat.pow_add, scale_of_exponent exponent, leadingBit_eq]
    omega

theorem nearest_whole {n : Nat} (small : n ≤ 2 ^ 53) :
    units (nearest (n * scale) 1) = n * scale ∧ nearest (n * scale) 1 < infinite := by
  rcases Nat.eq_zero_or_pos n with rfl | positive
  · rw [Nat.zero_mul]
    decide +kernel
  · obtain ⟨significand, shift, low, high, fits, written⟩ := whole_significand positive small
    rw [written, nearest_of_significand low high fits]
    exact ⟨units_of_significand low high, significand_finite high fits⟩

theorem toNat_ofMagnitude {magnitude : Nat} (finite : magnitude < infinite) :
    (ofMagnitude false magnitude).bits.toNat = magnitude := by
  have bounded := Nat.lt_trans finite infinite_lt_signBit
  have fits : magnitude < 2 ^ 64 := Nat.lt_trans bounded (by decide)
  rw [ofMagnitude, if_neg Bool.false_ne_true, Nat.add_zero]
  exact UInt64.toNat_ofNat_of_lt' fits

theorem ofMagnitude_is {magnitude n : Nat} (finite : magnitude < infinite)
    (value : units magnitude = n * scale) : (ofMagnitude false magnitude).Is n := by
  have bits := toNat_ofMagnitude finite
  have bounded := Nat.lt_trans finite infinite_lt_signBit
  have same : (ofMagnitude false magnitude).magnitude = magnitude := by
    rw [Binary64.magnitude, bits, Nat.mod_eq_of_lt bounded]
  constructor
  · rw [isNegative, bits, decide_eq_false_iff_not, Nat.not_le]
    exact bounded
  · rw [same]
    exact finite
  · rw [same]
    exact value

theorem zero_is : zero.Is 0 where
  unsigned := by decide
  finite := by decide
  value := by decide

theorem one_is : one.Is 1 where
  unsigned := by decide
  finite := by decide
  value := by decide

section Whole

variable {x y : Binary64} {m n : Nat}

theorem Is.signedUnits (isX : x.Is m) : x.signedUnits = (m * scale : Nat) := by
  rw [Binary64.signedUnits, isX.unsigned, if_neg (by decide), isX.value]

theorem Is.isNaN (isX : x.Is m) : x.isNaN = false := by
  rw [Binary64.isNaN, decide_eq_false_iff_not, Nat.not_lt]
  exact Nat.le_of_lt isX.finite

theorem Is.isInfinite (isX : x.Is m) : x.isInfinite = false := by
  rw [Binary64.isInfinite, decide_eq_false_iff_not]
  exact Nat.ne_of_lt isX.finite

/-- Adding whole numbers loses nothing while the sum does not exceed 2^53. -/
theorem add_is (isX : x.Is m) (isY : y.Is n) (small : m + n ≤ 2 ^ 53) : (x.add y).Is (m + n) := by
  have sum : x.signedUnits + y.signedUnits = ((m + n) * scale : Nat) := by
    rw [isX.signedUnits, isY.signedUnits, Nat.add_mul, Int.natCast_add]
  have nearer := nearest_whole small
  rw [add, isX.isNaN, isY.isNaN, isX.isInfinite, isY.isInfinite]
  simp only [Bool.false_eq_true, if_false, sum, isX.unsigned, isY.unsigned]
  split
  · rename_i nothing
    have empty : m + n = 0 := by
      have product : (m + n) * scale = 0 := Int.ofNat_eq_zero.mp nothing
      exact (Nat.mul_eq_zero.mp product).resolve_right (Nat.ne_of_gt scale_pos)
    rw [empty]
    exact ofMagnitude_is (by decide) (by decide)
  · have positive : decide (((m + n) * scale : Nat) < (0 : Int)) = false := by
      rw [decide_eq_false_iff_not]
      omega
    rw [positive, Int.natAbs_natCast]
    exact ofMagnitude_is nearer.2 nearer.1

theorem Is.rank (isX : x.Is m) : x.rank = signBit + x.magnitude := by
  rw [rank_eq, isX.unsigned, if_neg (by decide)]

theorem rank_lt_iff (isX : x.Is m) (isY : y.Is n) : x.rank < y.rank ↔ m < n := by
  rw [isX.rank, isY.rank, Nat.add_lt_add_iff_left, ← units_lt_iff, isX.value, isY.value]
  exact Nat.mul_lt_mul_right scale_pos

theorem rank_eq_iff (isX : x.Is m) (isY : y.Is n) : x.rank = y.rank ↔ m = n := by
  have less := rank_lt_iff isX isY
  have more := rank_lt_iff isY isX
  omega

theorem toCount_whole (isX : x.Is m) (small : m < 2 ^ 64) : x.toCount.toNat = m := by
  have positive := scale_pos
  have rounded : (2 * (m * scale) + scale) / (2 * scale) = m := by
    have halves : 2 * (m * scale) + scale = scale + m * (2 * scale) := by
      rw [Nat.mul_left_comm, Nat.add_comm]
    rw [halves, Nat.add_mul_div_right _ _ (by omega), Nat.div_eq_of_lt (by omega), Nat.zero_add]
  have fits : m ≤ UInt64.size - 1 := by
    rw [show UInt64.size = 2 ^ 64 from rfl]
    omega
  rw [toCount, isX.isNaN, isX.unsigned, isX.value, rounded, Nat.min_eq_left fits]
  exact UInt64.toNat_ofNat_of_lt' small

end Whole

end Binary64
end BookSearch
