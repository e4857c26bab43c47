import Mathlib.Data.List.Nodup
import BookSearch.Proofs.Counter.RankBounds
import BookSearch.Proofs.Popularity.Tally

/-!
The most frequent terms, told by the terms that were recorded. Which terms are listed, how often each came
and how they are sorted leaves only one list, so the order in which recordings finish cannot show in it.
-/
namespace BookSearch

def Keyword.Above (one other : Keyword) : Prop :=
  other.count < one.count ∨
    (one.count = other.count ∧ other.keyword.toUTF8.data.toList < one.keyword.toUTF8.data.toList)

/-- The whole ranking of the terms: what each is without the blanks at its ends, unless it is blank. -/
structure Ranks (ranking : List Keyword) (terms : List String) : Prop where
  listed : ∀ term, term ∈ ranking.map Keyword.keyword ↔
    ∃ raw ∈ terms, Text.NonBlank raw ∧ Text.trim raw = term
  once : (ranking.map Keyword.keyword).Nodup
  counted : ∀ entry ∈ ranking, entry.count.toNat = terms.countP fun raw => Text.trim raw = entry.keyword
  sorted : ranking.Pairwise Keyword.Above

theorem mem_recorded_iff (terms : List String) (term : String) :
    term ∈ recorded terms ↔ ∃ raw ∈ terms, Text.NonBlank raw ∧ Text.trim raw = term := by
  simp [recorded, Text.nonBlank_iff, and_assoc]

theorem recorded_perm {terms others : List String} (perm : terms.Perm others) :
    (recorded terms).Perm (recorded others) :=
  (perm.filter _).map Text.trim

theorem trim_blank {raw : String} (blank : Text.isBlank raw = true) : Text.trim raw = "" := by
  apply String.toList_injective
  rw [Text.toList_trim, (Chars.trim_eq_nil_iff raw.toList).mpr blank]
  rfl

theorem recorded_ne_empty {terms : List String} {term : String} (listed : term ∈ recorded terms) :
    term ≠ "" := by
  obtain ⟨raw, _, written, rfl⟩ := (mem_recorded_iff terms term).mp listed
  intro empty
  have hollow : (Text.trim raw).isEmpty = true := String.isEmpty_iff.mpr empty
  exact (Text.trim_isEmpty_iff raw).mp hollow written

theorem count_recorded {terms : List String} {term : String} (listed : term ∈ recorded terms) :
    (recorded terms).count term = terms.countP fun raw => Text.trim raw = term := by
  rw [List.count_eq_countP, recorded, List.countP_map, List.countP_filter]
  apply List.countP_congr
  intro raw _
  simp only [Function.comp_apply, Bool.and_eq_true, beq_iff_eq, Bool.not_eq_true', decide_eq_true_eq]
  constructor
  · intro kept
    exact kept.1
  · intro same
    refine ⟨same, ?_⟩
    cases blank : Text.isBlank raw with
    | false => rfl
    | true =>
      rw [trim_blank blank] at same
      exact absurd same.symm (recorded_ne_empty listed)

theorem Keyword.above_asymm {one other : Keyword} (above : one.Above other) : ¬ other.Above one := by
  intro below
  simp only [Keyword.Above, UInt64.lt_iff_toNat_lt, ← UInt64.toNat_inj] at above below
  rcases above with more | ⟨level, bytes⟩
  · rcases below with more' | ⟨level', _⟩
    · omega
    · omega
  · rcases below with more' | ⟨_, bytes'⟩
    · omega
    · exact List.lt_asymm bytes bytes'

namespace Ranks

variable {ranking other : List Keyword} {terms : List String}

theorem subset (ranks : Ranks ranking terms) (others : Ranks other terms) : ranking ⊆ other := by
  intro entry member
  have listed := (ranks.listed entry.keyword).mp (List.mem_map_of_mem member)
  obtain ⟨found, there, same⟩ := List.mem_map.mp ((others.listed entry.keyword).mpr listed)
  have counts : found.count = entry.count := by
    rw [← UInt64.toNat_inj, others.counted found there, ranks.counted entry member, same]
  have equal : found = entry := by
    cases found
    cases entry
    simp_all
  rwa [← equal]

theorem unique (ranks : Ranks ranking terms) (others : Ranks other terms) : ranking = other := by
  have here : ranking.Nodup := List.Nodup.of_map Keyword.keyword ranks.once
  have there : other.Nodup := List.Nodup.of_map Keyword.keyword others.once
  have same : ranking.Perm other := by
    rw [List.perm_ext_iff_of_nodup here there]
    intro entry
    exact ⟨fun member => ranks.subset others member, fun member => others.subset ranks member⟩
  apply List.Perm.eq_of_pairwise _ ranks.sorted others.sorted same
  intro a b _ _ above below
  exact absurd below (Keyword.above_asymm above)

theorem of_perm (ranks : Ranks ranking terms) {others : List String} (perm : terms.Perm others) :
    Ranks ranking others where
  listed := by
    intro term
    rw [ranks.listed]
    simp only [perm.mem_iff]
  once := ranks.once
  counted := by
    intro entry member
    rw [ranks.counted entry member, perm.countP_eq]
  sorted := ranks.sorted

end Ranks

section Counted

variable {set : RankedSet} {terms : List String} (tallies : set.Tallies (recorded terms))
  (few : (recorded terms).length < 2 ^ 53)
include tallies few

theorem toKeyword_count {entry : Entry} (member : entry ∈ set.entries) :
    entry.toKeyword.count.toNat = (recorded terms).count entry.member := by
  have bound : (recorded terms).count entry.member ≤ (recorded terms).length := List.count_le_length
  exact Binary64.toCount_whole (tallies.is_count member).2 (by omega)

theorem toKeyword_above {one other : Entry} (here : one ∈ set.entries) (there : other ∈ set.entries)
    (above : one.Above other) : one.toKeyword.Above other.toKeyword := by
  have value := (tallies.is_count here).2
  have value' := (tallies.is_count there).2
  have counts : ∀ entry ∈ set.entries, entry.toKeyword.count.toNat = (recorded terms).count entry.member :=
    fun _ member => toKeyword_count tallies few member
  rw [Keyword.Above, UInt64.lt_iff_toNat_lt, ← UInt64.toNat_inj, counts one here, counts other there]
  rcases above with higher | ⟨level, bytes⟩
  · exact Or.inl ((Binary64.rank_lt_iff value' value).mp higher)
  · exact Or.inr ⟨(Binary64.rank_eq_iff value value').mp level, bytes⟩

theorem ranked_ranks : Ranks ((Entry.ranked set.entries).map Entry.toKeyword) terms := by
  have perm := Entry.ranked_perm set.entries
  have keywords : ((Entry.ranked set.entries).map Entry.toKeyword).map Keyword.keyword =
      (Entry.ranked set.entries).map Entry.member := by
    rw [List.map_map]
    rfl
  constructor
  · intro term
    rw [keywords, (perm.map Entry.member).mem_iff, tallies.mem_members_iff, mem_recorded_iff]
  · rw [keywords, (perm.map Entry.member).nodup_iff]
    exact set.distinct
  · intro keyword listed
    obtain ⟨entry, member, rfl⟩ := List.mem_map.mp listed
    have stored := perm.mem_iff.mp member
    rw [toKeyword_count tallies few stored, count_recorded (tallies.is_count stored).1]
    rfl
  · rw [List.pairwise_map]
    apply List.Pairwise.imp_of_mem _ (Entry.ranked_above set.distinct)
    intro one other here there above
    exact toKeyword_above tallies few (perm.mem_iff.mp here) (perm.mem_iff.mp there) above

omit few in
theorem ranked_length : (Entry.ranked set.entries).length ≤ (recorded terms).length := by
  have inside : set.entries.map Entry.member ⊆ recorded terms := fun term member =>
    (tallies.mem_members_iff term).mp member
  have shorter := set.distinct.length_le_of_subset inside
  rwa [List.length_map, ← (Entry.ranked_perm set.entries).length_eq] at shorter

end Counted

namespace Popularity

/-- The last rank that can be asked for is 2^63 - 1, so that no more than 2^63 entries are read. -/
theorem top_inMemory_take (key : String) (memory : Counter) (k : Nat) :
    (inMemory key memory).top k = (memory.ranking key).take (min k (2 ^ 63)) := by
  cases k with
  | zero => rfl
  | succ k =>
    have natural : 0 ≤ lastRead (k + 1) := by
      rw [lastRead]
      omega
    have last : min (k + 1) ((lastRead (k + 1)).toNat + 1) = min (k + 1) (2 ^ 63) := by
      rw [lastRead]
      omega
    have read : (inMemory key memory).board.read key 0 (lastRead (k + 1)) =
        .answered ((memory.ranking key).take ((lastRead (k + 1)).toNat + 1)) := by
      rw [← Counter.range_from_top memory key natural]
      rfl
    rw [top, topFrom, if_neg (by omega), show (inMemory key memory).key = key from rfl, read, firstOf,
      List.take_take, last]

theorem top_inMemory (key : String) (memory : Counter) (few : (memory.ranking key).length ≤ 2 ^ 63)
    (k : Nat) : (inMemory key memory).top k = (memory.ranking key).take k := by
  rw [top_inMemory_take, List.take_eq_take_iff]
  omega

theorem topKeywords_inMemory (key : String) (memory : Counter) (few : (memory.ranking key).length ≤ 2 ^ 63)
    (k : Nat) :
    (inMemory key memory).topKeywords k = ((memory.ranking key).map Entry.toKeyword).take k := by
  rw [topKeywords, top_inMemory key memory few, List.map_take]

theorem topKeywords_recordAll (key : String) {terms : List String} (few : (recorded terms).length < 2 ^ 53) :
    ∃ ranking, Ranks ranking terms ∧
      ∀ k, ((inMemory key Counter.empty).recordAll terms).topKeywords k = ranking.take k := by
  have tallies := Counter.countAll_tallies key few
  refine ⟨_, ranked_ranks tallies few, ?_⟩
  intro k
  have short := ranked_length tallies
  rw [recordAll_inMemory]
  exact topKeywords_inMemory key _ (Nat.le_trans short (by omega)) k

/-- In whatever order the recordings finish, the most frequent terms are the first ones of the one ranking
of the terms. -/
theorem topKeywords_rank_terms (key : String) (terms : List String)
    (few : (recorded terms).length < 2 ^ 53) :
    ∃ ranking, Ranks ranking terms ∧ (∀ other, Ranks other terms → other = ranking) ∧
      ∀ finished : List String, finished.Perm terms →
        (∀ k, ((inMemory key Counter.empty).recordAll finished).topKeywords k = ranking.take k) ∧
          ∀ j k, j ≤ k → ((inMemory key Counter.empty).recordAll finished).topKeywords j <+:
            ((inMemory key Counter.empty).recordAll finished).topKeywords k := by
  obtain ⟨ranking, ranks, _⟩ := topKeywords_recordAll key few
  refine ⟨ranking, ranks, fun other others => others.unique ranks, ?_⟩
  intro finished perm
  have same : (recorded finished).length < 2 ^ 53 := by
    rw [(recorded_perm perm).length_eq]
    exact few
  obtain ⟨ranking', ranks', top⟩ := topKeywords_recordAll key same
  have equal : ranking' = ranking := (ranks'.of_perm perm).unique ranks
  rw [equal] at top
  refine ⟨top, ?_⟩
  intro j k less
  rw [top j, top k]
  exact List.take_prefix_take_left less

theorem b_ranks_first :
    (recorded [" b", "b", "", "a"]).length < 2 ^ 53 ∧ ["a", "", "b", " b"].Perm [" b", "b", "", "a"] ∧
      ((inMemory "k" Counter.empty).recordAll ["a", "", "b", " b"]).topKeywords 1 = [⟨"b", 2⟩] := by
  have asked : recorded [" b", "b", "", "a"] = ["b", "b", "a"] := by decide +kernel
  have few : (recorded [" b", "b", "", "a"]).length < 2 ^ 53 := by rw [asked]; decide
  have perm : ["a", "", "b", " b"].Perm [" b", "b", "", "a"] := by decide
  have ranks : Ranks [⟨"b", 2⟩, ⟨"a", 1⟩] [" b", "b", "", "a"] := by
    constructor
    · intro term
      rw [← mem_recorded_iff, asked]
      simp
    · decide
    · decide +kernel
    · simp [Keyword.Above]
  obtain ⟨ranking, _, unique, finished⟩ := topKeywords_rank_terms "k" _ few
  have first := (finished _ perm).1 1
  rw [← unique _ ranks] at first
  exact ⟨few, perm, first⟩

end Popularity
end BookSearch
