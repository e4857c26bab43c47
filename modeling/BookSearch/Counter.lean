import BookSearch.Binary64.Basic
import BookSearch.Keyed

/-!
Scores of members under keys, and their ranking from the highest score down. Equal scores are ranked by
the member's UTF-8 bytes, highest first.
-/
namespace BookSearch

structure Entry where
  member : String
  score : Binary64
  deriving DecidableEq, Repr

namespace Entry

def memberBytes (entry : Entry) : List UInt8 := entry.member.toUTF8.data.toList

def ranksBefore (a b : Entry) : Bool :=
  b.score.rank < a.score.rank || (a.score.rank = b.score.rank && b.memberBytes ≤ a.memberBytes)

def ranked (entries : List Entry) : List Entry := entries.mergeSort ranksBefore

end Entry

structure RankedSet where
  key : String
  entries : List Entry
  distinct : (entries.map Entry.member).Nodup
  deriving DecidableEq

namespace RankedSet

def empty (key : String) : RankedSet := ⟨key, [], List.nodup_nil⟩

def score? (set : RankedSet) (member : String) : Option Binary64 :=
  (Keyed.get? Entry.member member set.entries).map Entry.score

def put (set : RankedSet) (entry : Entry) : RankedSet :=
  { set with
    entries := Keyed.put Entry.member entry set.entries
    distinct := Keyed.nodup_keys_put Entry.member entry _ set.distinct }

theorem score?_put_same (set : RankedSet) (entry : Entry) :
    (set.put entry).score? entry.member = some entry.score := by
  simp only [score?, put, Keyed.get?_put_same, Option.map_some]

theorem score?_put_other (set : RankedSet) (entry : Entry) (member : String)
    (other : member ≠ entry.member) : (set.put entry).score? member = set.score? member := by
  simp only [score?, put, Keyed.get?_put_other Entry.member entry _ member other]

end RankedSet

structure Counter where
  sets : List RankedSet
  distinct : (sets.map RankedSet.key).Nodup
  deriving DecidableEq

namespace Counter

def empty : Counter := ⟨[], List.nodup_nil⟩

def set (counter : Counter) (key : String) : RankedSet :=
  (Keyed.get? RankedSet.key key counter.sets).getD (RankedSet.empty key)

def score? (counter : Counter) (key member : String) : Option Binary64 :=
  (counter.set key).score? member

/-- The score that the member has after it was increased; a new member starts at zero. -/
def increased (counter : Counter) (key member : String) (delta : Binary64) : Binary64 :=
  ((counter.score? key member).getD Binary64.zero).add delta

def increment (counter : Counter) (key member : String) (delta : Binary64) : Counter :=
  let set := (counter.set key).put ⟨member, counter.increased key member delta⟩
  ⟨Keyed.put RankedSet.key set counter.sets, Keyed.nodup_keys_put RankedSet.key set _ counter.distinct⟩

theorem key_set (counter : Counter) (key : String) : (counter.set key).key = key := by
  unfold set
  cases found : Keyed.get? RankedSet.key key counter.sets with
  | none => rfl
  | some set => exact Keyed.key_of_get? found

theorem set_increment_same (counter : Counter) (key member : String) (delta : Binary64) :
    (counter.increment key member delta).set key =
      (counter.set key).put ⟨member, counter.increased key member delta⟩ := by
  have same : ((counter.set key).put ⟨member, counter.increased key member delta⟩).key = key :=
    counter.key_set key
  have stored := Keyed.get?_put_same RankedSet.key
    ((counter.set key).put ⟨member, counter.increased key member delta⟩) counter.sets
  rw [same] at stored
  simp only [increment, set] at stored ⊢
  rw [stored]
  rfl

theorem set_increment_other (counter : Counter) (key member : String) (delta : Binary64)
    (wanted : String) (other : wanted ≠ key) :
    (counter.increment key member delta).set wanted = counter.set wanted := by
  have kept := Keyed.get?_put_other RankedSet.key
    ((counter.set key).put ⟨member, counter.increased key member delta⟩) counter.sets wanted
    (fun same => other (same.trans (counter.key_set key)))
  simp only [increment, set] at kept ⊢
  rw [kept]

theorem score?_increment_same (counter : Counter) (key member : String) (delta : Binary64) :
    (counter.increment key member delta).score? key member =
      some (counter.increased key member delta) := by
  rw [score?, set_increment_same]
  exact RankedSet.score?_put_same _ _

theorem score?_increment_other (counter : Counter) {key term wanted other : String}
    (apart : wanted ≠ key ∨ other ≠ term) (delta : Binary64) :
    (counter.increment key term delta).score? wanted other = counter.score? wanted other := by
  by_cases same : wanted = key
  · subst same
    have apart := apart.resolve_left fun differ => differ rfl
    rw [score?, set_increment_same]
    exact RankedSet.score?_put_other _ _ other apart
  · rw [score?, set_increment_other counter key term delta wanted same, ← score?]

def ranking (counter : Counter) (key : String) : List Entry := Entry.ranked (counter.set key).entries

/-- A negative rank counts from the lowest one; one that is still negative means the highest. -/
def firstRank (start : Int) (count : Nat) : Int :=
  if start < 0 then max (start + count) 0 else start

/-- A negative rank counts from the lowest one; one that is still negative ends before the highest. -/
def lastRank (stop : Int) (count : Nat) : Int :=
  if stop < 0 then stop + count else min stop (count - 1)

def rankBounds? (start stop : Int) (count : Nat) : Option (Nat × Nat) :=
  if count = 0 then none
  else
    let first := firstRank start count
    let last := lastRank stop count
    if last < first || count ≤ first then none else some (first.toNat, last.toNat)

def range (counter : Counter) (key : String) (start stop : Int) : List Entry :=
  let ranking := counter.ranking key
  match rankBounds? start stop ranking.length with
  | none => []
  | some (first, last) => (ranking.drop first).take (last - first + 1)

end Counter
end BookSearch
