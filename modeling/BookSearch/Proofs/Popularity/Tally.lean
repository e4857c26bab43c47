import Mathlib.Algebra.Group.Nat.Defs
import BookSearch.Popularity
import BookSearch.Proofs.Binary64.WholeNumbers
import BookSearch.Proofs.Counter.Ranking
import BookSearch.Proofs.Text.Trimming

/-!
Counting terms on a ranked counter. The score of a term says how often it came, whatever came in between,
and a counter that was filled in another order of the same terms has the same scores.
-/
namespace BookSearch

def Scored : Option Binary64 → Nat → Prop
  | none, n => n = 0
  | some score, n => 0 < n ∧ score.Is n

def RankedSet.Tallies (set : RankedSet) (terms : List String) : Prop :=
  ∀ term, Scored (set.score? term) (terms.count term)

def Counter.countAll (counter : Counter) (key : String) (terms : List String) : Counter :=
  terms.foldl (fun counter term => counter.increment key term Binary64.one) counter

def recorded (terms : List String) : List String :=
  (terms.filter fun term => !Text.isBlank term).map Text.trim

namespace Popularity

def inMemory (key : String) (memory : Counter) : Popularity := ⟨⟨.memory, memory⟩, key⟩

/-- Every term recorded in a running program, with the recordings finished in the order of the list. -/
def recordAll (popularity : Popularity) (terms : List String) : Popularity :=
  terms.foldl (fun popularity term => (popularity.record true term).2) popularity

end Popularity

theorem Scored.increased {score : Option Binary64} {n : Nat} (scored : Scored score n)
    (few : n + 1 ≤ 2 ^ 53) : ((score.getD Binary64.zero).add Binary64.one).Is (n + 1) := by
  cases score with
  | none =>
    have none : n = 0 := scored
    rw [none] at few ⊢
    exact Binary64.add_is Binary64.zero_is Binary64.one_is few
  | some score => exact Binary64.add_is scored.2 Binary64.one_is few

theorem Scored.toNat {score : Option Binary64} {n : Nat} (scored : Scored score n) (few : n ≤ 2 ^ 53) :
    (score.elim 0 fun score => score.toCount.toNat) = n := by
  cases score with
  | none =>
    have none : n = 0 := scored
    rw [none, Option.elim_none]
  | some score => exact Binary64.toCount_whole scored.2 (by omega)

namespace RankedSet

theorem empty_tallies (key : String) : (empty key).Tallies [] := fun _ => rfl

theorem Tallies.perm {set : RankedSet} {terms others : List String} (tallies : set.Tallies terms)
    (perm : terms.Perm others) : set.Tallies others := by
  intro term
  rw [← perm.count_eq]
  exact tallies term

theorem Tallies.is_count {set : RankedSet} {terms : List String} (tallies : set.Tallies terms) {entry : Entry}
    (member : entry ∈ set.entries) :
    entry.member ∈ terms ∧ entry.score.Is (terms.count entry.member) := by
  have scored := tallies entry.member
  rw [(mem_entries_iff set entry).mp member] at scored
  exact ⟨List.count_pos_iff.mp scored.1, scored.2⟩

theorem Tallies.mem_members_iff {set : RankedSet} {terms : List String} (tallies : set.Tallies terms)
    (term : String) : term ∈ set.entries.map Entry.member ↔ term ∈ terms := by
  constructor
  · intro listed
    obtain ⟨entry, member, rfl⟩ := List.mem_map.mp listed
    exact (tallies.is_count member).1
  · intro asked
    have scored := tallies term
    cases found : set.score? term with
    | none =>
      rw [found] at scored
      exact absurd asked (List.count_eq_zero.mp scored)
    | some score => exact List.mem_map.mpr ⟨⟨term, score⟩, (mem_entries_iff set ⟨term, score⟩).mpr found, rfl⟩

end RankedSet

namespace Counter

variable {counter : Counter} {key : String} {terms : List String}

theorem tallies_increment (tallies : (counter.set key).Tallies terms) (few : terms.length + 1 < 2 ^ 53)
    (term : String) :
    ((counter.increment key term Binary64.one).set key).Tallies (terms ++ [term]) := by
  intro other
  rw [set_increment_same, List.count_append]
  -- only the score of the term itself is touched, and it comes once more
  by_cases same : other = term
  · subst same
    have bound : terms.count other ≤ terms.length := List.count_le_length
    have raised := (tallies other).increased (by omega)
    rw [RankedSet.score?_put_same, List.count_singleton_self]
    exact ⟨by omega, raised⟩
  · have absent : [term].count other = 0 := List.count_eq_zero.mpr (by simpa using same)
    rw [RankedSet.score?_put_other _ _ other same, absent, Nat.add_zero]
    exact tallies other

theorem tallies_countAll (tallies : (counter.set key).Tallies terms) (more : List String)
    (few : terms.length + more.length < 2 ^ 53) :
    ((counter.countAll key more).set key).Tallies (terms ++ more) := by
  induction more generalizing counter terms with
  | nil =>
    rw [List.append_nil]
    exact tallies
  | cons term rest ih =>
    rw [List.length_cons] at few
    have step := tallies_increment tallies (by omega) term
    have run := ih step (by rw [List.length_append, List.length_singleton]; omega)
    rwa [List.append_assoc, List.singleton_append] at run

theorem countAll_tallies (key : String) (few : terms.length < 2 ^ 53) :
    ((Counter.empty.countAll key terms).set key).Tallies terms := by
  have none : (Counter.empty.set key).Tallies [] := RankedSet.empty_tallies key
  simpa using tallies_countAll none terms (by simpa using few)

theorem countAll_other {other : String} (apart : other ≠ key) (counter : Counter) (terms : List String) :
    (counter.countAll key terms).set other = counter.set other := by
  induction terms generalizing counter with
  | nil => rfl
  | cons term rest ih =>
    rw [countAll, List.foldl_cons, ← countAll, ih, set_increment_other counter key term _ other apart]

end Counter

namespace Popularity

theorem record_inMemory (key : String) (memory : Counter) (term : String) :
    (inMemory key memory).record true term =
      if Text.isBlank term then (false, inMemory key memory)
      else (true, inMemory key (memory.increment key (Text.trim term) Binary64.one)) := by
  rw [record, Bool.not_true, Bool.or_false]
  rfl

theorem recordAll_inMemory (key : String) (memory : Counter) (terms : List String) :
    (inMemory key memory).recordAll terms = inMemory key (memory.countAll key (recorded terms)) := by
  induction terms generalizing memory with
  | nil => rfl
  | cons term rest ih =>
    rw [recordAll, List.foldl_cons, record_inMemory, ← recordAll]
    cases blank : Text.isBlank term with
    | true =>
      have skipped : recorded (term :: rest) = recorded rest := by simp [recorded, blank]
      rw [if_pos rfl, ih, skipped]
    | false =>
      have counted : recorded (term :: rest) = Text.trim term :: recorded rest := by simp [recorded, blank]
      rw [if_neg (by decide), ih, counted, Counter.countAll, Counter.countAll, List.foldl_cons]

end Popularity
end BookSearch
