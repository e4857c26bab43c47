import Mathlib.Algebra.Group.Int.Defs
import Mathlib.Algebra.Group.Nat.Defs
import BookSearch.Proofs.Counter.Ranking

/-!
Reading between two ranks. Whatever the bounds, what is read are the entries whose ranks lie between them, and
the work can be done in signed 64-bit words: no sum or difference leaves them, not even at their ends, and
the piece that is cut out lies inside the ranking.
-/
namespace BookSearch

inductive RangeFault where
  /-- A sum or difference is too large or too small for a word. -/
  | overflow
  /-- The piece to cut out does not lie inside the list. -/
  | outside
  deriving DecidableEq, Repr

namespace Word

def fit (n : Int) : Except RangeFault Int64 :=
  if Int64.minValue.toInt ≤ n ∧ n ≤ Int64.maxValue.toInt then .ok (Int64.ofInt n) else .error .overflow

def add (x y : Int64) : Except RangeFault Int64 := fit (x.toInt + y.toInt)

def sub (x y : Int64) : Except RangeFault Int64 := fit (x.toInt - y.toInt)

theorem toInt_bounds (x : Int64) : -2 ^ 63 ≤ x.toInt ∧ x.toInt < 2 ^ 63 := ⟨x.le_toInt, x.toInt_lt⟩

theorem fit_ok {n : Int} (low : -2 ^ 63 ≤ n) (high : n < 2 ^ 63) : ∃ x, fit n = .ok x ∧ x.toInt = n := by
  refine ⟨Int64.ofInt n, if_pos ⟨low, ?_⟩, Int64.toInt_ofInt_of_le low high⟩
  rw [Int64.toInt_maxValue]
  omega

theorem toInt_max (x y : Int64) : (max x y).toInt = max x.toInt y.toInt := by
  change (if x ≤ y then y else x).toInt = _
  split
  · rename_i le
    rw [Int64.le_iff_toInt_le] at le
    omega
  · rename_i gt
    rw [Int64.le_iff_toInt_le] at gt
    omega

theorem toInt_min (x y : Int64) : (min x y).toInt = min x.toInt y.toInt := by
  change (if x ≤ y then x else y).toInt = _
  split
  · rename_i le
    rw [Int64.le_iff_toInt_le] at le
    omega
  · rename_i gt
    rw [Int64.le_iff_toInt_le] at gt
    omega

theorem toNat_toUInt64 {x : Int64} (natural : 0 ≤ x.toInt) : x.toUInt64.toNat = x.toInt.toNat := by
  rw [Int64.toNat_toUInt64_of_le (Int64.le_iff_toInt_le.mpr natural), Int64.toNat_toInt]

end Word

namespace Counter

def lowestRank (start : Int) (count : Nat) : Int := if 0 ≤ start then start else max 0 (start + count)

def highestRank (stop : Int) (count : Nat) : Int := if 0 ≤ stop then stop else stop + count

def atRanks (low high : Int) (ranking : List Entry) : List Entry :=
  (ranking.zipIdx.filter fun (_, rank) => low ≤ rank ∧ rank ≤ high).map Prod.fst

section Words

def firstRankInWords (start length : Int64) : Except RangeFault Int64 :=
  if start < 0 then (Word.add start length).map (max · 0) else .ok start

def lastRankInWords (stop length : Int64) : Except RangeFault Int64 :=
  if stop < 0 then Word.add stop length else (Word.sub length 1).map (min stop ·)

/-- The count becomes a word, and a rank is a word that is read as a place without regard to its sign. -/
def rankBoundsInWords (start stop : Int64) (count : Nat) : Except RangeFault (Option (Nat × Nat)) :=
  if count = 0 then .ok none
  else do
    let length := Int64.ofNat count
    let first ← firstRankInWords start length
    let last ← lastRankInWords stop length
    if last < first || length ≤ first then return none
    return some (first.toUInt64.toNat, last.toUInt64.toNat)

def cutOut (first last : Nat) (ranking : List Entry) : Except RangeFault (List Entry) :=
  if first ≤ last ∧ last < ranking.length then .ok ((ranking.drop first).take (last - first + 1))
  else .error .outside

def rangeInWords (counter : Counter) (key : String) (start stop : Int64) :
    Except RangeFault (List Entry) := do
  let ranking := counter.ranking key
  match ← rankBoundsInWords start stop ranking.length with
  | none => return []
  | some (first, last) => cutOut first last ranking

variable {start stop length : Int64} {count : Nat}

theorem firstRankInWords_ok (start : Int64) (counted : length.toInt = count) :
    ∃ first, firstRankInWords start length = .ok first ∧ first.toInt = firstRank start.toInt count := by
  have bounds := Word.toInt_bounds start
  have bounds' := Word.toInt_bounds length
  unfold firstRankInWords firstRank
  simp only [Int64.lt_iff_toInt_lt, Int64.toInt_zero]
  split
  · obtain ⟨sum, added, value⟩ := Word.fit_ok (n := start.toInt + length.toInt) (by omega) (by omega)
    refine ⟨max sum 0, by rw [Word.add, added]; rfl, ?_⟩
    rw [Word.toInt_max, value, counted, Int64.toInt_zero]
  · exact ⟨start, rfl, rfl⟩

theorem lastRankInWords_ok (stop : Int64) (counted : length.toInt = count) :
    ∃ last, lastRankInWords stop length = .ok last ∧ last.toInt = lastRank stop.toInt count := by
  have bounds := Word.toInt_bounds stop
  have bounds' := Word.toInt_bounds length
  unfold lastRankInWords lastRank
  simp only [Int64.lt_iff_toInt_lt, Int64.toInt_zero]
  split
  · obtain ⟨sum, added, value⟩ := Word.fit_ok (n := stop.toInt + length.toInt) (by omega) (by omega)
    exact ⟨sum, added, by rw [value, counted]⟩
  · obtain ⟨less, subtracted, value⟩ := Word.fit_ok (n := length.toInt - 1) (by omega) (by omega)
    refine ⟨min stop less, by rw [Word.sub, Int64.toInt_one, subtracted]; rfl, ?_⟩
    rw [Word.toInt_min, value, counted]

/-- No bound and no count of entries below 2^63 makes a sum or difference overflow. -/
theorem rankBoundsInWords_eq (start stop : Int64) (few : count < 2 ^ 63) :
    rankBoundsInWords start stop count = .ok (rankBounds? start.toInt stop.toInt count) := by
  have counted : (Int64.ofNat count).toInt = count := Int64.toInt_ofNat_of_lt few
  obtain ⟨first, firstOk, firstValue⟩ := firstRankInWords_ok start counted
  obtain ⟨last, lastOk, lastValue⟩ := lastRankInWords_ok stop counted
  have natural : 0 ≤ first.toInt := by
    rw [firstValue]
    unfold firstRank
    omega
  unfold rankBoundsInWords rankBounds?
  by_cases none : count = 0
  · rw [if_pos none, if_pos none]
  · have decided : (last < first || Int64.ofNat count ≤ first) =
        (lastRank stop.toInt count < firstRank start.toInt count ||
          (count : Int) ≤ firstRank start.toInt count) := by
      simp only [Int64.lt_iff_toInt_lt, Int64.le_iff_toInt_le, firstValue, lastValue, counted]
    rw [if_neg none, if_neg none]
    simp only [firstOk, lastOk, bind, Except.bind, decided]
    split
    · rfl
    · rename_i inside
      simp only [Bool.or_eq_true, decide_eq_true_eq] at inside
      have later : 0 ≤ last.toInt := by omega
      rw [Word.toNat_toUInt64 natural, Word.toNat_toUInt64 later, firstValue, lastValue]
      rfl

end Words

section Ranks

theorem firstRank_eq (start : Int) (count : Nat) : firstRank start count = lowestRank start count := by
  unfold firstRank lowestRank
  omega

theorem lowestRank_natural (start : Int) (count : Nat) : 0 ≤ lowestRank start count := by
  unfold lowestRank
  omega

theorem lastRank_eq (stop : Int) (count : Nat) :
    lastRank stop count = min (highestRank stop count) (count - 1) := by
  unfold lastRank highestRank
  omega

variable {start stop : Int} {count first last : Nat}

theorem rankBounds?_some (found : rankBounds? start stop count = some (first, last)) :
    first ≤ last ∧ last < count ∧ first = lowestRank start count ∧
      last = min (highestRank stop count) (count - 1) := by
  have natural := lowestRank_natural start count
  simp only [rankBounds?, firstRank_eq, lastRank_eq, Bool.or_eq_true, decide_eq_true_eq] at found
  split at found
  · contradiction
  · split at found
    · contradiction
    · simp only [Option.some.injEq, Prod.mk.injEq] at found
      omega

theorem rankBounds?_none (missing : rankBounds? start stop count = none) :
    highestRank stop count < lowestRank start count ∨ count ≤ lowestRank start count := by
  have natural := lowestRank_natural start count
  simp only [rankBounds?, firstRank_eq, lastRank_eq, Bool.or_eq_true, decide_eq_true_eq] at missing
  split at missing
  · omega
  · split at missing
    · omega
    · contradiction

theorem numbered_between (ranking : List Entry) (start : Nat) (low high : Int) :
    ((ranking.zipIdx start).filter fun (_, rank) => low ≤ rank ∧ rank ≤ high).map Prod.fst =
      (ranking.drop (low - start).toNat).take (high + 1 - max low start).toNat := by
  induction ranking generalizing start with
  | nil => simp
  | cons entry rest ih =>
    rw [List.zipIdx_cons, List.filter_cons]
    by_cases inside : low ≤ start ∧ start ≤ high
    · have skipped : (low - start).toNat = 0 := by omega
      have skipped' : (low - (start + 1 : Nat)).toNat = 0 := by omega
      have here : (high + 1 - max low start).toNat = (high + 1 - max low (start + 1 : Nat)).toNat + 1 := by omega
      rw [if_pos (decide_eq_true inside), List.map_cons, ih, skipped, skipped', here]
      rfl
    · rw [if_neg (by simpa using inside), ih]
      by_cases early : start < low
      · have further : (low - start).toNat = (low - (start + 1 : Nat)).toNat + 1 := by omega
        have same : max low start = max low (start + 1 : Nat) := by omega
        rw [further, List.drop_succ_cons, same]
      · have beyond : (high + 1 - max low start).toNat = 0 := by omega
        have beyond' : (high + 1 - max low (start + 1 : Nat)).toNat = 0 := by omega
        rw [beyond, beyond', List.take_zero, List.take_zero]

theorem atRanks_cut {low : Int} (natural : 0 ≤ low) (high : Int) (ranking : List Entry) :
    atRanks low high ranking = (ranking.drop low.toNat).take (high + 1 - low).toNat := by
  have numbered := numbered_between ranking 0 low high
  have front : max low (0 : Nat) = low := by omega
  have here : low - (0 : Nat) = low := by omega
  rw [front, here] at numbered
  exact numbered

theorem range_eq_atRanks (counter : Counter) (key : String) (start stop : Int) :
    counter.range key start stop =
      atRanks (lowestRank start (counter.ranking key).length)
        (highestRank stop (counter.ranking key).length) (counter.ranking key) := by
  rw [atRanks_cut (lowestRank_natural _ _)]
  simp only [range]
  split
  · rename_i missing
    have outside := rankBounds?_none missing
    symm
    apply List.eq_nil_of_length_eq_zero
    rw [List.length_take, List.length_drop]
    omega
  · rename_i first last found
    obtain ⟨ordered, inside, starts, ends⟩ := rankBounds?_some found
    rw [← starts, Int.toNat_natCast, List.take_eq_take_iff, List.length_drop]
    omega

theorem range_from_top (counter : Counter) (key : String) {stop : Int} (natural : 0 ≤ stop) :
    counter.range key 0 stop = (counter.ranking key).take (stop.toNat + 1) := by
  have low : lowestRank 0 (counter.ranking key).length = 0 := rfl
  have high : highestRank stop (counter.ranking key).length = stop := if_pos natural
  have count : (stop + 1 - 0).toNat = stop.toNat + 1 := by omega
  rw [range_eq_atRanks, low, high, atRanks_cut (Int.le_refl 0), count]
  rfl

theorem range_full (counter : Counter) (key : String) : counter.range key 0 (-1) = counter.ranking key := by
  have low : lowestRank 0 (counter.ranking key).length = 0 := rfl
  have high : highestRank (-1) (counter.ranking key).length = -1 + (counter.ranking key).length := rfl
  rw [range_eq_atRanks, low, high, atRanks_cut (Int.le_refl 0)]
  exact List.take_of_length_le (by simp only [Int.toNat_zero, List.drop_zero]; omega)

theorem rangeInWords_eq (counter : Counter) (key : String) (start stop : Int64)
    (few : (counter.ranking key).length < 2 ^ 63) :
    counter.rangeInWords key start stop = .ok (counter.range key start.toInt stop.toInt) := by
  unfold rangeInWords range
  simp only [rankBoundsInWords_eq start stop few, bind, Except.bind]
  cases found : rankBounds? start.toInt stop.toInt (counter.ranking key).length with
  | none => rfl
  | some bounds =>
    obtain ⟨ordered, inside, _, _⟩ := rankBounds?_some found
    exact if_pos ⟨ordered, inside⟩

end Ranks

theorem length_ranking (counter : Counter) (key : String) :
    (counter.ranking key).length = (counter.set key).entries.length :=
  (Entry.ranked_perm _).length_eq

/-- With fewer than 2^63 members, a read between any two words gives the entries of the ranking at the ranks
between the bounds, a negative one counted from the end. In words no operation overflows, and what is cut out
is a piece of the ranking. -/
theorem range_selects (counter : Counter) (key : String) (start stop : Int64)
    (few : (counter.set key).entries.length < 2 ^ 63) :
    counter.range key start.toInt stop.toInt =
        atRanks (lowestRank start.toInt (counter.set key).entries.length)
          (highestRank stop.toInt (counter.set key).entries.length) (counter.ranking key) ∧
      counter.rangeInWords key start stop = .ok (counter.range key start.toInt stop.toInt) ∧
      ∀ first last, rankBounds? start.toInt stop.toInt (counter.set key).entries.length = some (first, last) →
        first ≤ last ∧ last < (counter.set key).entries.length := by
  rw [← length_ranking] at few ⊢
  refine ⟨range_eq_atRanks counter key _ _, rangeInWords_eq counter key start stop few, ?_⟩
  intro first last found
  obtain ⟨ordered, inside, _, _⟩ := rankBounds?_some found
  exact ⟨ordered, inside⟩

/-- The start is the least word there is, and the stop leaves the lowest entry out. -/
theorem least_start_reads_from_top :
    let counter := (empty.increment "k" "a" Binary64.one).increment "k" "b" Binary64.one
    (counter.set "k").entries.length < 2 ^ 63 ∧
      counter.range "k" Int64.minValue.toInt (-2) = [⟨"b", Binary64.one⟩] ∧
      counter.rangeInWords "k" Int64.minValue (-2) = .ok [⟨"b", Binary64.one⟩] := by
  intro counter
  have entries : (counter.set "k").entries = [⟨"a", Binary64.one⟩, ⟨"b", Binary64.one⟩] := by decide +kernel
  have ranking : counter.ranking "k" = [⟨"b", Binary64.one⟩, ⟨"a", Binary64.one⟩] := by
    rw [Counter.ranking, entries]
    exact Entry.ranked_pair (Or.inr ⟨rfl, by decide +kernel⟩)
  have few : (counter.set "k").entries.length < 2 ^ 63 := by
    rw [entries]
    decide
  obtain ⟨selected, inWords, _⟩ := range_selects counter "k" Int64.minValue (-2) few
  have top : counter.range "k" Int64.minValue.toInt (-2) = [⟨"b", Binary64.one⟩] := by
    refine selected.trans ?_
    rw [ranking, entries]
    decide +kernel
  refine ⟨few, top, ?_⟩
  rw [inWords]
  exact congrArg Except.ok top

end Counter
end BookSearch
