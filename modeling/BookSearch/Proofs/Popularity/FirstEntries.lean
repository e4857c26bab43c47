import BookSearch.Proofs.Popularity.TopKeywords

/-!
Asking any counter for its highest entries. Whatever becomes of the read, there are no more entries than were
asked for, and they are those that the answer starts with. The count of entries becomes a rank, both of them
held in words, and none of them is too large for that.
-/
namespace BookSearch
namespace Popularity

structure StartsAnswer (reading : Reading) (k : Nat) (entries : List Entry) : Prop where
  few : entries.length ≤ k
  answered : ∀ answer, reading = .answered answer → entries = answer.take k
  unanswered : reading = .failed ∨ reading = .late → entries = []

section Words

/-- One less than the count is a rank. A count of nothing has no last rank, and one that does not fit into a
signed word becomes the greatest that does. -/
def lastReadInWords (k : UInt64) : Except RangeFault Int64 :=
  if k = 0 then .error .overflow
  else if k - 1 < 0x8000000000000000 then .ok (Int64.ofNat (k - 1).toNat)
  else .ok Int64.maxValue

def topInWords (read : (start stop : Int64) → Except RangeFault Reading) (k : UInt64) :
    Except RangeFault (List Entry) :=
  if k = 0 then return []
  else do
    let stop ← lastReadInWords k
    let reading ← read 0 stop
    return firstOf k.toNat reading

theorem lastReadInWords_ok {k : UInt64} (some : k ≠ 0) :
    ∃ last, lastReadInWords k = .ok last ∧ last.toInt = lastRead k.toNat := by
  have positive : 0 < k.toNat := Nat.pos_of_ne_zero fun zero => some (UInt64.toNat_inj.mp zero)
  have less : (k - 1).toNat = k.toNat - 1 :=
    UInt64.toNat_sub_of_le k 1 (UInt64.le_iff_toNat_le.mpr positive)
  have fits : k - 1 < 0x8000000000000000 ↔ k.toNat - 1 < 2 ^ 63 := by
    rw [UInt64.lt_iff_toNat_lt, less]
    rfl
  unfold lastReadInWords
  rw [if_neg some]
  split
  · rename_i small
    rw [fits] at small
    refine ⟨_, rfl, ?_⟩
    rw [less, Int64.toInt_ofNat_of_lt small, lastRead]
    omega
  · rename_i large
    rw [fits] at large
    refine ⟨_, rfl, ?_⟩
    rw [Int64.toInt_maxValue, lastRead]
    omega

theorem topInWords_eq {read : Int → Int → Reading} {readInWords : Int64 → Int64 → Except RangeFault Reading}
    (same : ∀ start stop, readInWords start stop = .ok (read start.toInt stop.toInt)) (k : UInt64) :
    topInWords readInWords k = .ok (topFrom read k.toNat) := by
  by_cases none : k = 0
  · subst none
    rfl
  · obtain ⟨last, lastOk, value⟩ := lastReadInWords_ok none
    have asked : k.toNat ≠ 0 := fun zero => none (UInt64.toNat_inj.mp zero)
    rw [topInWords, if_neg none, topFrom, if_neg asked, lastOk, ← value]
    simp only [bind, Except.bind, same, Int64.toInt_zero]
    rfl

end Words

theorem firstOf_starts (k : Nat) (reading : Reading) : StartsAnswer reading k (firstOf k reading) := by
  cases reading with
  | answered entries =>
    constructor
    · exact List.length_take_le k entries
    · intro answer same
      rw [firstOf, Reading.answered.inj same]
    · rintro (failed | late) <;> contradiction
  | failed => exact ⟨Nat.zero_le k, fun answer same => Reading.noConfusion same, fun _ => rfl⟩
  | late => exact ⟨Nat.zero_le k, fun answer same => Reading.noConfusion same, fun _ => rfl⟩

theorem topFrom_eq (read : Int → Int → Reading) (k : Nat) : topFrom read k = firstOf k (read 0 (lastRead k)) := by
  rw [topFrom]
  split
  · rename_i none
    subst none
    cases read 0 (lastRead 0) <;> rfl
  · rfl

/-- Any counter is asked without a fault, and of its answer as many entries are taken as were asked for. Asking
the memory for them is cutting its whole ranking. -/
theorem top_starts_answer (k : UInt64) :
    (∀ read : Int → Int → Reading,
      topInWords (fun start stop => .ok (read start.toInt stop.toInt)) k = .ok (topFrom read k.toNat) ∧
        StartsAnswer (read 0 (lastRead k.toNat)) k.toNat (topFrom read k.toNat)) ∧
      ∀ (key : String) (memory : Counter), (memory.set key).entries.length < 2 ^ 63 →
        topInWords (fun start stop => (memory.rangeInWords key start stop).map .answered) k =
            .ok ((inMemory key memory).top k.toNat) ∧
          (inMemory key memory).top k.toNat = (memory.range key 0 (-1)).take k.toNat := by
  constructor
  · intro read
    refine ⟨topInWords_eq (fun _ _ => rfl) k, ?_⟩
    rw [topFrom_eq]
    exact firstOf_starts k.toNat _
  · intro key memory few
    rw [← Counter.length_ranking] at few
    constructor
    · change topInWords _ k = .ok (topFrom ((inMemory key memory).board.read key) k.toNat)
      apply topInWords_eq
      intro start stop
      rw [Counter.rangeInWords_eq memory key start stop few]
      rfl
    · rw [top_inMemory key memory (Nat.le_of_lt few), Counter.range_full]

theorem greatest_count_reads_all :
    let memory := (Counter.empty.increment "k" "a" Binary64.one).increment "k" "b" Binary64.one
    (memory.set "k").entries.length < 2 ^ 63 ∧
      topInWords (fun start stop => (memory.rangeInWords "k" start stop).map .answered) 0xffffffffffffffff =
        .ok [⟨"b", Binary64.one⟩, ⟨"a", Binary64.one⟩] := by
  intro memory
  have entries : (memory.set "k").entries = [⟨"a", Binary64.one⟩, ⟨"b", Binary64.one⟩] := by decide +kernel
  have ranking : memory.ranking "k" = [⟨"b", Binary64.one⟩, ⟨"a", Binary64.one⟩] := by
    rw [Counter.ranking, entries]
    exact Entry.ranked_pair (Or.inr ⟨rfl, by decide +kernel⟩)
  have few : (memory.set "k").entries.length < 2 ^ 63 := by
    rw [entries]
    decide
  obtain ⟨asked, cut⟩ := (top_starts_answer 0xffffffffffffffff).2 "k" memory few
  refine ⟨few, ?_⟩
  rw [asked, cut, Counter.range_full, ranking]
  rfl

end Popularity
end BookSearch
