import BookSearch.Counter

/-!
The ranking of the members under a key: all of them, strictly down by score and, where scores are equal, by
the bytes of the member.
-/
namespace BookSearch
namespace Entry

def Above (one other : Entry) : Prop :=
  other.score.rank < one.score.rank ∨
    (one.score.rank = other.score.rank ∧ other.memberBytes < one.memberBytes)

theorem utf8_inj {s t : String} (same : s.toUTF8.data.toList = t.toUTF8.data.toList) : s = t :=
  String.toByteArray_inj.mp (ByteArray.ext (Array.toList_inj.mp same))

theorem ranksBefore_iff (one other : Entry) :
    ranksBefore one other = true ↔ other.score.rank < one.score.rank ∨
      (one.score.rank = other.score.rank ∧ other.memberBytes ≤ one.memberBytes) := by
  simp [ranksBefore]

theorem ranksBefore_trans {a b c : Entry} (first : ranksBefore a b = true) (second : ranksBefore b c = true) :
    ranksBefore a c = true := by
  rw [ranksBefore_iff] at *
  rcases first with higher | ⟨level, bytes⟩
  · rcases second with lower | ⟨level, _⟩
    · exact Or.inl (Nat.lt_trans lower higher)
    · exact Or.inl (by omega)
  · rcases second with lower | ⟨next, more⟩
    · exact Or.inl (by omega)
    · exact Or.inr ⟨level.trans next, List.le_trans more bytes⟩

theorem ranksBefore_total (a b : Entry) : (ranksBefore a b || ranksBefore b a) = true := by
  rw [Bool.or_eq_true, ranksBefore_iff, ranksBefore_iff]
  rcases Nat.lt_trichotomy a.score.rank b.score.rank with less | level | more
  · exact Or.inr (Or.inl less)
  · rcases List.le_total a.memberBytes b.memberBytes with bytes | bytes
    · exact Or.inr (Or.inr ⟨level.symm, bytes⟩)
    · exact Or.inl (Or.inr ⟨level, bytes⟩)
  · exact Or.inl (Or.inl more)

theorem above_of_ranksBefore {one other : Entry} (before : ranksBefore one other = true)
    (different : one.member ≠ other.member) : Above one other := by
  rcases (ranksBefore_iff one other).mp before with higher | ⟨level, bytes⟩
  · exact Or.inl higher
  · have apart : other.memberBytes ≠ one.memberBytes := fun same => different (utf8_inj same).symm
    exact Or.inr ⟨level, Std.lt_of_le_of_ne bytes apart⟩

theorem ranked_perm (entries : List Entry) : (ranked entries).Perm entries := List.mergeSort_perm _ _

theorem ranked_pairwise (entries : List Entry) :
    (ranked entries).Pairwise fun one other => ranksBefore one other = true := by
  apply List.pairwise_mergeSort
  · intro a b c first second
    exact ranksBefore_trans first second
  · exact ranksBefore_total

theorem ranked_above {entries : List Entry} (distinct : (entries.map Entry.member).Nodup) :
    (ranked entries).Pairwise Above := by
  have members : ((ranked entries).map Entry.member).Nodup :=
    ((ranked_perm entries).map Entry.member).nodup_iff.mpr distinct
  have different : (ranked entries).Pairwise fun one other => one.member ≠ other.member :=
    List.pairwise_map.mp members
  exact (ranked_pairwise entries).imp₂ (fun _ _ => above_of_ranksBefore) different

theorem ranked_pair {one other : Entry} (above : one.Above other) : ranked [other, one] = [one, other] := by
  have behind : ranksBefore other one = false := by
    rw [Bool.eq_false_iff, Ne, ranksBefore_iff]
    rcases above with higher | ⟨level, bytes⟩
    · omega
    · have notBehind := List.not_le.mpr bytes
      exact fun before => before.elim (by omega) fun led => notBehind led.2
  rw [ranked, List.mergeSort]
  simp [behind]

end Entry

theorem RankedSet.mem_entries_iff (set : RankedSet) (entry : Entry) :
    entry ∈ set.entries ↔ set.score? entry.member = some entry.score := by
  constructor
  · intro member
    rw [score?, Keyed.get?_of_mem set.distinct member, Option.map_some]
  · intro scored
    obtain ⟨found, stored, score⟩ := Option.map_eq_some_iff.mp scored
    have same : found = entry := by
      have member : found.member = entry.member := Keyed.key_of_get? stored
      cases found
      cases entry
      simp_all
    rw [← same]
    exact List.mem_of_find?_eq_some stored

namespace Counter

theorem mem_entries_of_range {counter : Counter} {key : String} {start stop : Int} {entry : Entry}
    (member : entry ∈ counter.range key start stop) : entry ∈ (counter.set key).entries := by
  rw [range] at member
  split at member
  · contradiction
  · exact (Entry.ranked_perm _).mem_iff.mp (List.mem_of_mem_drop (List.mem_of_mem_take member))

end Counter
end BookSearch
