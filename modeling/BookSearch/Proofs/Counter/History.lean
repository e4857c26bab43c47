import BookSearch.Proofs.Counter.Ranking

/-!
The history of a counter. A score is what the increments of its own member under its own key add up to, one
after the other from zero. Nothing else that was asked of the counter shows in it or in what is answered about
it, be it increments of other members, of the same member under other keys, or reads.
-/
namespace BookSearch

inductive CounterCall where
  | increment (key member : String) (delta : Binary64)
  | score (key member : String)
  | range (key : String) (start stop : Int)
  deriving DecidableEq

inductive CounterAnswer where
  | increased (score : Binary64)
  | scored (score : Option Binary64)
  | listed (entries : List Entry)
  deriving DecidableEq

namespace CounterCall

def delta? (key member : String) : CounterCall → Option Binary64
  | increment key' member' delta => if key' = key ∧ member' = member then some delta else none
  | score _ _ | range _ _ _ => none

def isOn (key member : String) : CounterCall → Bool
  | increment key' member' _ | score key' member' => key' = key && member' = member
  | range _ _ _ => false

theorem delta?_eq_some_iff {key member : String} {call : CounterCall} {delta : Binary64} :
    call.delta? key member = some delta ↔ call = increment key member delta := by
  cases call with
  | increment key' member' delta' =>
    rw [delta?, increment.injEq]
    by_cases same : key' = key ∧ member' = member
    · simp [same]
    · rw [if_neg same]
      exact iff_of_false nofun fun equal => same ⟨equal.1, equal.2.1⟩
  | score _ _ => exact iff_of_false nofun nofun
  | range _ _ _ => exact iff_of_false nofun nofun

theorem isOn_of_delta? {key member : String} {call : CounterCall} (adds : (call.delta? key member).isSome = true) :
    call.isOn key member = true := by
  obtain ⟨delta, adds⟩ := Option.isSome_iff_exists.mp adds
  rw [delta?_eq_some_iff.mp adds]
  simp [isOn]

end CounterCall

namespace Counter

def serve (counter : Counter) : CounterCall → CounterAnswer × Counter
  | .increment key member delta =>
    (.increased (counter.increased key member delta), counter.increment key member delta)
  | .score key member => (.scored (counter.score? key member), counter)
  | .range key start stop => (.listed (counter.range key start stop), counter)

def run (counter : Counter) (calls : List CounterCall) : Counter :=
  calls.foldl (fun counter call => (counter.serve call).2) counter

def transcript : Counter → List CounterCall → List (CounterCall × CounterAnswer)
  | _, [] => []
  | counter, call :: rest => (call, (counter.serve call).1) :: (counter.serve call).2.transcript rest

def deltas (key member : String) (calls : List CounterCall) : List Binary64 :=
  calls.filterMap (CounterCall.delta? key member)

/-- A score goes up by the delta, and one that is not there starts at zero. -/
def accrue (score : Option Binary64) (delta : Binary64) : Option Binary64 :=
  some ((score.getD Binary64.zero).add delta)

section Step

variable (counter : Counter) {key member : String}

theorem score?_serve (call : CounterCall) :
    (counter.serve call).2.score? key member =
      (call.delta? key member).elim (counter.score? key member) (accrue (counter.score? key member)) := by
  cases call with
  | increment key' member' delta =>
    by_cases same : key' = key ∧ member' = member
    · obtain ⟨rfl, rfl⟩ := same
      rw [CounterCall.delta?, if_pos ⟨rfl, rfl⟩]
      exact score?_increment_same counter key' member' delta
    · rw [CounterCall.delta?, if_neg same]
      have apart : key ≠ key' ∨ member ≠ member' :=
        (Decidable.not_and_iff_not_or_not.mp same).imp Ne.symm Ne.symm
      exact score?_increment_other counter apart delta
  | score _ _ => rfl
  | range _ _ _ => rfl

theorem answer_congr {one other : Counter} (same : one.score? key member = other.score? key member)
    {call : CounterCall} (on : call.isOn key member = true) : (one.serve call).1 = (other.serve call).1 := by
  cases call with
  | increment key' member' delta =>
    obtain ⟨rfl, rfl⟩ : key' = key ∧ member' = member := by simpa [CounterCall.isOn] using on
    simp only [serve, increased, same]
  | score key' member' =>
    obtain ⟨rfl, rfl⟩ : key' = key ∧ member' = member := by simpa [CounterCall.isOn] using on
    simp only [serve, same]
  | range _ _ _ => contradiction

end Step

section Run

variable {key member : String}

theorem deltas_cons (call : CounterCall) (rest : List CounterCall) :
    deltas key member (call :: rest) = (call.delta? key member).toList ++ deltas key member rest := by
  rw [deltas, List.filterMap_cons]
  cases call.delta? key member <;> rfl

theorem score?_run (counter : Counter) (calls : List CounterCall) :
    (counter.run calls).score? key member =
      (deltas key member calls).foldl accrue (counter.score? key member) := by
  induction calls generalizing counter with
  | nil => rfl
  | cons call rest ih =>
    rw [run, List.foldl_cons, ← run, ih, score?_serve, deltas_cons]
    cases call.delta? key member <;> rfl

theorem foldl_accrue (score : Binary64) (added : List Binary64) :
    added.foldl accrue (some score) = some (added.foldl Binary64.add score) := by
  induction added generalizing score with
  | nil => rfl
  | cons delta rest ih => exact ih (score.add delta)

theorem foldl_accrue_none {added : List Binary64} (some_added : added ≠ []) :
    added.foldl accrue none = some (added.foldl Binary64.add Binary64.zero) := by
  cases added with
  | nil => contradiction
  | cons delta rest => exact foldl_accrue (Binary64.zero.add delta) rest

theorem mem_deltas_iff (calls : List CounterCall) (delta : Binary64) :
    delta ∈ deltas key member calls ↔ .increment key member delta ∈ calls := by
  simp only [deltas, List.mem_filterMap, CounterCall.delta?_eq_some_iff, exists_eq_right]

theorem deltas_eq_nil_iff (calls : List CounterCall) :
    deltas key member calls = [] ↔ ∀ delta, .increment key member delta ∉ calls := by
  rw [List.eq_nil_iff_forall_not_mem]
  simp only [mem_deltas_iff]

theorem score?_after_iff (calls : List CounterCall) (score : Binary64) :
    (empty.run calls).score? key member = some score ↔ (∃ delta, .increment key member delta ∈ calls) ∧
      score = (deltas key member calls).foldl Binary64.add Binary64.zero := by
  have absent : empty.score? key member = none := rfl
  rw [score?_run, absent]
  cases added : deltas key member calls with
  | nil =>
    have never := (deltas_eq_nil_iff calls).mp added
    exact iff_of_false nofun fun ⟨⟨delta, called⟩, _⟩ => never delta called
  | cons delta rest =>
    have called : .increment key member delta ∈ calls :=
      (mem_deltas_iff calls delta).mp (added ▸ List.mem_cons_self)
    rw [foldl_accrue_none (List.cons_ne_nil delta rest), Option.some_inj, eq_comm]
    exact (and_iff_right ⟨delta, called⟩).symm

section Kept

variable {keep : CounterCall → Bool}
  (keeps : ∀ call : CounterCall, (call.delta? key member).isSome = true → keep call = true)
include keeps

theorem delta?_left_out {call : CounterCall} (left : keep call = false) : call.delta? key member = none := by
  cases adds : call.delta? key member with
  | none => rfl
  | some delta => simp [keeps call (by rw [adds]; rfl)] at left

theorem deltas_filter (calls : List CounterCall) :
    deltas key member (calls.filter keep) = deltas key member calls := by
  induction calls with
  | nil => rfl
  | cons call rest ih =>
    rw [List.filter_cons, deltas_cons call rest, ← ih]
    cases kept : keep call with
    | true => rw [if_pos rfl, deltas_cons]
    | false => rw [if_neg (by decide), delta?_left_out keeps kept, Option.toList_none, List.nil_append]

/-- Whatever is left out of the calls, as long as the increments of the score stay. -/
theorem transcript_filter {one other : Counter} (same : one.score? key member = other.score? key member)
    (calls : List CounterCall) :
    (one.transcript (calls.filter keep)).filter (fun turn => turn.1.isOn key member) =
      (other.transcript calls).filter fun turn => turn.1.isOn key member && keep turn.1 := by
  induction calls generalizing one other with
  | nil => rfl
  | cons call rest ih =>
    rw [transcript, List.filter_cons, List.filter_cons]
    cases kept : keep call with
    | true =>
      have after : (one.serve call).2.score? key member = (other.serve call).2.score? key member := by
        rw [score?_serve, score?_serve, same]
      rw [if_pos rfl, transcript, List.filter_cons, ih after, Bool.and_true]
      cases on : call.isOn key member with
      | true => simp only [if_true, answer_congr same on]
      | false => simp only [Bool.false_eq_true, if_false]
    | false =>
      have after : one.score? key member = (other.serve call).2.score? key member := by
        rw [score?_serve, delta?_left_out keeps kept, Option.elim_none, same]
      simp only [Bool.false_eq_true, if_false, Bool.and_false, ih after]

end Kept

end Run

/-- After any calls a score is there just if it was incremented, and then it is the sum of its increments. Each
of them answered with the score that a read right behind it gives, and all that is answered on the score is
the same if calls are left out that do not increment it. -/
theorem score_is_history (key member : String) (calls : List CounterCall) :
    ((empty.run calls).score? key member = none ↔ ∀ delta, .increment key member delta ∉ calls) ∧
      ((∃ delta, .increment key member delta ∈ calls) →
        (empty.run calls).score? key member =
          some ((deltas key member calls).foldl Binary64.add Binary64.zero)) ∧
      (∀ before delta, ∃ score,
        ((empty.run before).serve (.increment key member delta)).1 = .increased score ∧
          (empty.run (before ++ [.increment key member delta])).score? key member = some score) ∧
      ∀ keep : CounterCall → Bool,
        (∀ call : CounterCall, (call.delta? key member).isSome = true → keep call = true) →
          (empty.run (calls.filter keep)).score? key member = (empty.run calls).score? key member ∧
            (empty.transcript (calls.filter keep)).filter (fun turn => turn.1.isOn key member) =
              (empty.transcript calls).filter fun turn => turn.1.isOn key member && keep turn.1 := by
  have absent : empty.score? key member = none := rfl
  refine ⟨?_, ?_, ?_, ?_⟩
  · rw [score?_run, absent, ← deltas_eq_nil_iff]
    cases deltas key member calls with
    | nil => exact iff_of_true rfl rfl
    | cons delta rest => simp [foldl_accrue_none (List.cons_ne_nil delta rest)]
  · rintro ⟨delta, called⟩
    have added : delta ∈ deltas key member calls := (mem_deltas_iff calls delta).mpr called
    rw [score?_run, absent, foldl_accrue_none (List.ne_nil_of_mem added)]
  · intro before delta
    refine ⟨_, rfl, ?_⟩
    rw [run, List.foldl_append]
    exact score?_increment_same _ key member delta
  · intro keep keeps
    constructor
    · rw [score?_run, score?_run, deltas_filter keeps]
    · exact transcript_filter keeps rfl calls

def busyCalls : List CounterCall :=
  [.increment "k" "a" Binary64.one, .increment "j" "a" Binary64.one, .range "k" 0 (-1), .score "k" "a",
    .increment "k" "b" Binary64.one, .increment "k" "a" ⟨0x4004000000000000⟩]

theorem busy_score_adds_up :
    .increment "k" "a" Binary64.one ∈ busyCalls ∧
      (empty.run busyCalls).score? "k" "a" = some ⟨0x400c000000000000⟩ ∧
      (empty.run (busyCalls.filter (CounterCall.isOn "k" "a"))).score? "k" "a" = some ⟨0x400c000000000000⟩ := by
  obtain ⟨_, sum, _, left⟩ := score_is_history "k" "a" busyCalls
  have called : .increment "k" "a" Binary64.one ∈ busyCalls := List.mem_cons_self
  have added : (deltas "k" "a" busyCalls).foldl Binary64.add Binary64.zero = ⟨0x400c000000000000⟩ := by
    decide +kernel
  have total : (empty.run busyCalls).score? "k" "a" = some ⟨0x400c000000000000⟩ := by
    rw [sum ⟨_, called⟩, added]
  have alone := left (CounterCall.isOn "k" "a") fun call => CounterCall.isOn_of_delta?
  exact ⟨called, total, by rw [alone.1, total]⟩

end Counter
end BookSearch
