import Mathlib.Data.List.Nodup
import Mathlib.Order.RelClasses
import BookSearch.Proofs.Binary64.TotalOrder
import BookSearch.Proofs.Counter.History
import BookSearch.Proofs.Counter.RankBounds

/-!
The full ranking under a key. No two entries are level, whatever their scores, so that what was added up leaves
just one list, and the order in which the entries are kept cannot show in it.
-/
namespace BookSearch

namespace Entry

/-- The greater score in the total order comes first and, of one and the same score, the greater member by
its bytes. -/
def Leads (one other : Entry) : Prop :=
  other.score.Below one.score ∨ (one.score = other.score ∧ other.memberBytes < one.memberBytes)

theorem above_iff_leads (one other : Entry) : one.Above other ↔ one.Leads other := by
  rw [Above, Leads, Binary64.rank_lt_iff_below]
  constructor
  · rintro (higher | ⟨level, bytes⟩)
    · exact Or.inl higher
    · exact Or.inr ⟨Binary64.rank_inj level, bytes⟩
  · rintro (higher | ⟨same, bytes⟩)
    · exact Or.inl higher
    · exact Or.inr ⟨congrArg Binary64.rank same, bytes⟩

theorem above_irrefl (entry : Entry) : ¬ entry.Above entry := by
  rintro (higher | ⟨_, bytes⟩)
  · exact Nat.lt_irrefl _ higher
  · exact List.lt_irrefl _ bytes

theorem above_trans {a b c : Entry} (first : a.Above b) (second : b.Above c) : a.Above c := by
  rcases first with higher | ⟨level, bytes⟩
  · rcases second with higher' | ⟨level', _⟩
    · exact Or.inl (Nat.lt_trans higher' higher)
    · exact Or.inl (level' ▸ higher)
  · rcases second with higher' | ⟨level', bytes'⟩
    · exact Or.inl (level ▸ higher')
    · exact Or.inr ⟨level.trans level', List.lt_trans bytes' bytes⟩

theorem eq_of_level {a b : Entry} (notAbove : ¬ a.Above b) (notBelow : ¬ b.Above a) : a = b := by
  rw [Above, not_or, not_and] at notAbove notBelow
  have level : a.score.rank = b.score.rank := by omega
  have bytes : a.memberBytes = b.memberBytes :=
    List.le_antisymm (List.not_lt.mp (notAbove.2 level)) (List.not_lt.mp (notBelow.2 level.symm))
  cases a
  cases b
  exact congrArg₂ mk (utf8_inj bytes) (Binary64.rank_inj level)

instance : IsStrictTotalOrder Entry Leads where
  irrefl entry leads := above_irrefl entry ((above_iff_leads _ _).mpr leads)
  trans _ _ _ first second := by
    rw [← above_iff_leads] at first second ⊢
    exact above_trans first second
  trichotomous _ _ notLeads notLed := by
    rw [← above_iff_leads] at notLeads notLed
    exact eq_of_level notLeads notLed

end Entry

namespace Counter

/-- What the calls leave under the key, in whatever order it is kept: every member that they increment, with
the sum of its increments. -/
structure Holds (calls : List CounterCall) (key : String) (entries : List Entry) : Prop where
  scored : ∀ entry, entry ∈ entries ↔ (∃ delta, .increment key entry.member delta ∈ calls) ∧
    entry.score = (deltas key entry.member calls).foldl Binary64.add Binary64.zero
  once : (entries.map Entry.member).Nodup

structure Lists (calls : List CounterCall) (key : String) (listing : List Entry) : Prop
    extends Holds calls key listing where
  descending : listing.Pairwise Entry.Leads

variable {calls : List CounterCall} {key : String}

theorem entries_hold {counter : Counter}
    (same : ∀ member, counter.score? key member = (empty.run calls).score? key member) :
    Holds calls key (counter.set key).entries where
  scored entry := by
    rw [RankedSet.mem_entries_iff, ← score?, same]
    exact score?_after_iff calls entry.score
  once := (counter.set key).distinct

theorem Holds.perm {one other : List Entry} (holds : Holds calls key one) (perm : one.Perm other) :
    Holds calls key other where
  scored entry := by
    rw [← perm.mem_iff]
    exact holds.scored entry
  once := (perm.map Entry.member).nodup_iff.mp holds.once

theorem ranked_lists {handed : List Entry} (holds : Holds calls key handed) :
    Lists calls key (Entry.ranked handed) where
  toHolds := holds.perm (Entry.ranked_perm handed).symm
  descending := (Entry.ranked_above holds.once).imp fun above => (Entry.above_iff_leads _ _).mp above

theorem Lists.unique {one other : List Entry} (lists : Lists calls key one) (others : Lists calls key other) :
    one = other := by
  have here : one.Nodup := List.Nodup.of_map Entry.member lists.once
  have there : other.Nodup := List.Nodup.of_map Entry.member others.once
  have same : one.Perm other := by
    rw [List.perm_ext_iff_of_nodup here there]
    intro entry
    rw [lists.scored, others.scored]
  apply List.Perm.eq_of_pairwise _ lists.descending others.descending same
  intro a b _ _ leads led
  exact absurd led (asymm leads)

theorem range_lists {counter : Counter}
    (same : ∀ member, counter.score? key member = (empty.run calls).score? key member) :
    Lists calls key (counter.range key 0 (-1)) := by
  rw [range_full]
  exact ranked_lists (entries_hold same)

/-- Reading all ranks after any calls lists what the increments came to, in the only way in which it can be
listed: neither the order in which the entries are kept nor that in which they came makes a difference. -/
theorem full_range_lists (calls : List CounterCall) (key : String) :
    Lists calls key ((empty.run calls).range key 0 (-1)) ∧
      (∀ listing, Lists calls key listing → listing = (empty.run calls).range key 0 (-1)) ∧
      Holds calls key ((empty.run calls).set key).entries ∧
      (∀ handed, Holds calls key handed → Entry.ranked handed = (empty.run calls).range key 0 (-1)) ∧
      ∀ other : Counter, (∀ member, other.score? key member = (empty.run calls).score? key member) →
        other.range key 0 (-1) = (empty.run calls).range key 0 (-1) := by
  have lists : Lists calls key ((empty.run calls).range key 0 (-1)) := range_lists fun _ => rfl
  refine ⟨lists, fun listing others => others.unique lists, entries_hold fun _ => rfl, ?_, ?_⟩
  · intro handed holds
    exact (ranked_lists holds).unique lists
  · intro other same
    exact (range_lists same).unique lists

def specialCalls : List CounterCall :=
  [.increment "k" "a" ⟨0x8000000000000000⟩, .increment "k" "n" ⟨0x7ff8000000000000⟩,
    .increment "j" "n" Binary64.one, .increment "k" "i" ⟨0x7ff0000000000000⟩, .range "k" 0 (-1),
    .increment "k" "b" Binary64.zero, .increment "k" "i" ⟨0xfff0000000000000⟩]

/-- Negative zero added to zero is zero, and the two infinities come to a NaN with its sign bit set. -/
def specialListing : List Entry :=
  [⟨"n", ⟨0x7ff8000000000000⟩⟩, ⟨"b", Binary64.zero⟩, ⟨"a", Binary64.zero⟩, ⟨"i", ⟨0xfff8000000000000⟩⟩]

theorem special_scores_listed :
    Lists specialCalls "k" specialListing ∧
      (empty.run specialCalls).range "k" 0 (-1) = specialListing := by
  obtain ⟨-, unique, holds, -⟩ := full_range_lists specialCalls "k"
  have stored : ((empty.run specialCalls).set "k").entries.Perm specialListing := by decide +kernel
  have above : specialListing.Pairwise Entry.Above := by
    unfold Entry.Above
    decide +kernel
  have lists : Lists specialCalls "k" specialListing :=
    ⟨holds.perm stored, above.imp fun first => (Entry.above_iff_leads _ _).mp first⟩
  exact ⟨lists, (unique specialListing lists).symm⟩

end Counter

end BookSearch
