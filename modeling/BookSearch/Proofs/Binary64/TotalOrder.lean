import BookSearch.Binary64.Basic

/-!
The total order of the binary64 bit patterns, told by sign and magnitude. The place of a number in a ranking
follows it, so that NaNs and the two zeros are ranked too and no two patterns are level.
-/
namespace BookSearch
namespace Binary64

/-- The total order of IEEE 754. With the sign bit set all stand below all others, and among them the greater
magnitude is the lower one. -/
def Below (x y : Binary64) : Prop :=
  match x.isNegative, y.isNegative with
  | true, false => True
  | false, true => False
  | true, true => y.magnitude < x.magnitude
  | false, false => x.magnitude < y.magnitude

theorem magnitude_lt (x : Binary64) : x.magnitude < signBit := Nat.mod_lt _ (by decide)

theorem bits_eq (x : Binary64) : x.bits.toNat = x.magnitude + if x.isNegative then signBit else 0 := by
  have sign : signBit = 2 ^ 63 := rfl
  have bounded := x.bits.toNat_lt
  rw [magnitude, isNegative, sign]
  split
  · rename_i negative
    rw [decide_eq_true_eq] at negative
    omega
  · rename_i unsigned
    rw [decide_eq_true_eq] at unsigned
    omega

theorem rank_eq (x : Binary64) :
    x.rank = if x.isNegative then signBit - 1 - x.magnitude else signBit + x.magnitude := by
  have words : UInt64.size = 2 * signBit := rfl
  rw [rank, bits_eq, words]
  split
  · omega
  · omega

theorem rank_lt_iff_below (x y : Binary64) : x.rank < y.rank ↔ x.Below y := by
  have bounded := x.magnitude_lt
  have bounded' := y.magnitude_lt
  rw [rank_eq, rank_eq, Below]
  cases x.isNegative with
  | false =>
    cases y.isNegative with
    | false => exact Nat.add_lt_add_iff_left
    | true =>
      simp only [Bool.false_eq_true, if_false, if_true, iff_false]
      omega
  | true =>
    cases y.isNegative with
    | false =>
      simp only [Bool.false_eq_true, if_false, if_true, iff_true]
      omega
    | true =>
      simp only [if_true]
      omega

/-- A NaN stands at either end, and negative zero just below zero. -/
example : Below ⟨0xfff8000000000000⟩ ⟨0xfff0000000000000⟩ ∧ Below ⟨0x8000000000000000⟩ zero ∧
    Below ⟨0x7ff0000000000000⟩ ⟨0x7ff8000000000000⟩ := by
  simp only [← rank_lt_iff_below]
  decide

theorem ext_of_magnitude {x y : Binary64} (signs : x.isNegative = y.isNegative)
    (magnitudes : x.magnitude = y.magnitude) : x = y := by
  have same : x.bits.toNat = y.bits.toNat := by rw [bits_eq, bits_eq, signs, magnitudes]
  cases x
  cases y
  exact congrArg mk (UInt64.toNat_inj.mp same)

theorem rank_inj {x y : Binary64} (level : x.rank = y.rank) : x = y := by
  have bounded := x.magnitude_lt
  have bounded' := y.magnitude_lt
  rw [rank_eq, rank_eq] at level
  cases sign : x.isNegative with
  | false =>
    cases sign' : y.isNegative with
    | false =>
      rw [sign, sign'] at level
      exact ext_of_magnitude (sign.trans sign'.symm) (Nat.add_left_cancel level)
    | true =>
      simp only [sign, sign', Bool.false_eq_true, if_false, if_true] at level
      omega
  | true =>
    cases sign' : y.isNegative with
    | false =>
      simp only [sign, sign', Bool.false_eq_true, if_false, if_true] at level
      omega
    | true =>
      simp only [sign, sign', if_true] at level
      exact ext_of_magnitude (sign.trans sign'.symm) (by omega)

end Binary64
end BookSearch
