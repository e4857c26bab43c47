import BookSearch.Proofs.Popularity.TopKeywords

/-!
The counts that the most frequent terms are shown with. Scores are ranked by the total order of their bit
patterns, in which NaNs stand at both ends, and rounding to a count keeps this order but for the NaNs above
infinity, which count for nothing. Where there are any they are listed first, and then the counts descend.
-/
namespace BookSearch

namespace Binary64

/-- The NaNs without a sign stand beyond infinity, and thus beyond all numbers. -/
def Beyond (x : Binary64) : Prop := x.isNaN = true ∧ x.isNegative = false

instance (x : Binary64) : Decidable x.Beyond := inferInstanceAs (Decidable (_ ∧ _))

variable {x y : Binary64}

theorem magnitude_le (lower : x.rank ≤ y.rank) (unsigned : x.isNegative = false) :
    y.isNegative = false ∧ x.magnitude ≤ y.magnitude := by
  have bounded := y.magnitude_lt
  rw [rank_eq, rank_eq, unsigned] at lower
  cases sign : y.isNegative with
  | false =>
    simp only [sign, Bool.false_eq_true, if_false] at lower
    exact ⟨rfl, Nat.le_of_add_le_add_left lower⟩
  | true =>
    simp only [sign, Bool.false_eq_true, if_false, if_true] at lower
    omega

theorem Beyond.of_rank_le (beyond : x.Beyond) (lower : x.rank ≤ y.rank) : y.Beyond := by
  obtain ⟨nan, unsigned⟩ := beyond
  obtain ⟨sign, larger⟩ := magnitude_le lower unsigned
  refine ⟨?_, sign⟩
  simp only [isNaN, decide_eq_true_eq] at nan ⊢
  exact Nat.lt_of_lt_of_le nan larger

theorem Beyond.toCount (beyond : x.Beyond) : x.toCount = 0 := by
  rw [Binary64.toCount, beyond.1, Bool.true_or, if_pos rfl]

theorem toCount_negative (negative : x.isNegative = true) : x.toCount = 0 := by
  rw [toCount, negative, Bool.or_true, if_pos rfl]

theorem toCount_number (number : x.isNaN = false) (unsigned : x.isNegative = false) :
    x.toCount.toNat = min ((2 * units x.magnitude + scale) / (2 * scale)) (UInt64.size - 1) := by
  rw [toCount, number, unsigned, if_neg (by decide)]
  exact UInt64.toNat_ofNat_of_lt' (Nat.lt_of_le_of_lt (Nat.min_le_right _ _) (by decide))

theorem units_le {a b : Nat} (le : a ≤ b) : units a ≤ units b := by
  rcases Nat.eq_or_lt_of_le le with same | less
  · exact Nat.le_of_eq (congrArg units same)
  · exact Nat.le_of_lt (units_lt less)

theorem toCount_le (lower : x.rank ≤ y.rank) (within : ¬ y.Beyond) : x.toCount ≤ y.toCount := by
  rw [UInt64.le_iff_toNat_le]
  cases sign : x.isNegative with
  | true =>
    rw [toCount_negative sign]
    exact Nat.zero_le _
  | false =>
    obtain ⟨sign', larger⟩ := magnitude_le lower sign
    have number' : y.isNaN = false := Bool.eq_false_iff.mpr fun nan => within ⟨nan, sign'⟩
    have number : x.isNaN = false :=
      Bool.eq_false_iff.mpr fun nan => within (Beyond.of_rank_le ⟨nan, sign⟩ lower)
    have halves : 2 * units x.magnitude + scale ≤ 2 * units y.magnitude + scale :=
      Nat.add_le_add_right (Nat.mul_le_mul_left 2 (units_le larger)) scale
    have rounded : (2 * units x.magnitude + scale) / (2 * scale) ≤ (2 * units y.magnitude + scale) / (2 * scale) :=
      Nat.div_le_div_right halves
    rw [toCount_number number sign, toCount_number number' sign']
    exact Nat.le_min.mpr ⟨Nat.le_trans (Nat.min_le_left _ _) rounded, Nat.min_le_right _ _⟩

end Binary64

theorem exists_front {α : Type} {p : α → Prop} [DecidablePred p] {xs : List α}
    (sorted : xs.Pairwise fun one other => p other → p one) :
    ∃ front rest, xs = front ++ rest ∧ (∀ x ∈ front, p x) ∧ ∀ x ∈ rest, ¬ p x := by
  induction sorted with
  | nil => exact ⟨[], [], rfl, List.forall_mem_nil _, List.forall_mem_nil _⟩
  | @cons x xs first _ ih =>
    by_cases holds : p x
    · obtain ⟨front, rest, rfl, inFront, inRest⟩ := ih
      exact ⟨x :: front, rest, rfl, List.forall_mem_cons.mpr ⟨holds, inFront⟩, inRest⟩
    · refine ⟨[], x :: xs, rfl, List.forall_mem_nil _, List.forall_mem_cons.mpr ⟨holds, ?_⟩⟩
      exact fun other member later => holds (first other member later)

namespace Popularity

theorem top_ranks_descend (key : String) (memory : Counter) (k : Nat) :
    ((inMemory key memory).top k).Pairwise fun one other => other.score.rank ≤ one.score.rank := by
  rw [top_inMemory_take]
  refine ((Entry.ranked_pairwise _).imp ?_).sublist (List.take_sublist _ _)
  intro one other before
  rcases (Entry.ranksBefore_iff one other).mp before with higher | ⟨level, _⟩
  · exact Nat.le_of_lt higher
  · exact Nat.le_of_eq level.symm

/-- The most frequent terms start with those whose score is a NaN beyond infinity, shown with no count, and
from there on no count is greater than one before it. -/
theorem counts_descend (key : String) (memory : Counter) (k : Nat) :
    ∃ nans others : List Entry, (inMemory key memory).top k = nans ++ others ∧
      (inMemory key memory).topKeywords k = nans.map Entry.toKeyword ++ others.map Entry.toKeyword ∧
      (∀ entry ∈ nans, entry.score.Beyond ∧ entry.toKeyword.count = 0) ∧
      (∀ entry ∈ others, ¬ entry.score.Beyond) ∧
      (others.map Entry.toKeyword).Pairwise fun one other => other.count ≤ one.count := by
  have descend := top_ranks_descend key memory k
  obtain ⟨nans, others, split, beyond, within⟩ :=
    exists_front (p := fun entry : Entry => entry.score.Beyond)
      (descend.imp fun lower beyond => beyond.of_rank_le lower)
  refine ⟨nans, others, split, ?_, fun entry member => ⟨beyond entry member, (beyond entry member).toCount⟩,
    within, ?_⟩
  · rw [topKeywords, split, List.map_append]
  · rw [split, List.pairwise_append] at descend
    rw [List.pairwise_map]
    apply List.Pairwise.imp_of_mem _ descend.2.1
    intro one other here _ lower
    exact Binary64.toCount_le lower (within one here)

/-- A term that came once, and one whose score is a NaN. -/
theorem nan_listed_above_count :
    let memory := (Counter.empty.increment "k" "b" Binary64.one).increment "k" "a" ⟨0x7ff8000000000000⟩
    (inMemory "k" memory).topKeywords 2 = [⟨"a", 0⟩, ⟨"b", 1⟩] ∧
      ¬ ((inMemory "k" memory).topKeywords 2).Pairwise fun one other => other.count ≤ one.count := by
  intro memory
  have entries : (memory.set "k").entries = [⟨"b", Binary64.one⟩, ⟨"a", ⟨0x7ff8000000000000⟩⟩] := by
    decide +kernel
  have ranking : memory.ranking "k" = [⟨"a", ⟨0x7ff8000000000000⟩⟩, ⟨"b", Binary64.one⟩] := by
    rw [Counter.ranking, entries]
    exact Entry.ranked_pair (Or.inl (by decide))
  have keywords : (inMemory "k" memory).topKeywords 2 = [⟨"a", 0⟩, ⟨"b", 1⟩] := by
    rw [topKeywords_inMemory "k" memory (by rw [ranking]; decide), ranking]
    decide +kernel
  refine ⟨keywords, ?_⟩
  rw [keywords]
  decide

end Popularity
end BookSearch
