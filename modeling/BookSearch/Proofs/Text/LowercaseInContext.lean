import BookSearch.Proofs.Text.CaseTables
import BookSearch.Proofs.Text.Trimming

/-!
The lowercase of a piece of a longer text. Only Σ looks at its neighbours, and all it sees of a side is
whether the first character there that it does not skip is a letter. So a piece between two breaks is
lowercased on its own, and trimming and lowercasing may be done in either order.
-/
namespace BookSearch
namespace Chars

def lowerAt (before : List Char) (c : Char) (after : List Char) : List Char :=
  if c = 'Σ' then [if endsWord before after then 'ς' else 'σ'] else lowerChar c

/-- `before` holds what stands in front of the piece, nearest first, and `after` what follows it. -/
def lowerBetween : (before : List Char) → List Char → (after : List Char) → List Char
  | _, [], _ => []
  | before, c :: rest, after =>
    lowerAt before c (rest ++ after) ++ lowerBetween (c :: before) rest after

theorem lowerAfter_eq_between (before s : List Char) : lowerAfter before s = lowerBetween before s [] := by
  induction s generalizing before with
  | nil => rfl
  | cons c rest ih =>
    rw [lowerAfter, ih, lowerBetween, List.append_nil]
    rfl

theorem lower_eq_between (s : List Char) : lower s = lowerBetween [] s [] := lowerAfter_eq_between [] s

theorem lowerBetween_append (before s t after : List Char) :
    lowerBetween before (s ++ t) after =
      lowerBetween before s (t ++ after) ++ lowerBetween (s.reverse ++ before) t after := by
  induction s generalizing before with
  | nil => rfl
  | cons c rest ih => simp [lowerBetween, ih]

theorem lower_around (front piece back : List Char) :
    lower (front ++ piece ++ back) =
      lowerBetween [] front (piece ++ back) ++ lowerBetween front.reverse piece back ++
        lowerBetween (piece.reverse ++ front.reverse) back [] := by
  rw [lower_eq_between, lowerBetween_append, lowerBetween_append]
  simp

theorem startsCased_skips {s : List Char} (skipped : s.all isCaseIgnorable = true) (t : List Char) :
    startsCased (s ++ t) = startsCased t := by
  rw [startsCased, List.dropWhile_append_of_pos (List.all_eq_true.mp skipped), startsCased]

theorem startsCased_stops {s : List Char} (seen : s.all isCaseIgnorable = false) (t : List Char) :
    startsCased (s ++ t) = startsCased s := by
  induction s with
  | nil => simp at seen
  | cons c rest ih =>
    by_cases ignorable : isCaseIgnorable c = true
    · have later : rest.all isCaseIgnorable = false := by simpa [ignorable] using seen
      have tail := ih later
      simpa [startsCased, ignorable] using tail
    · simp [startsCased, ignorable]

theorem startsCased_append_congr (s : List Char) {t u : List Char}
    (same : startsCased t = startsCased u) : startsCased (s ++ t) = startsCased (s ++ u) := by
  cases all : s.all isCaseIgnorable with
  | true => rw [startsCased_skips all, startsCased_skips all, same]
  | false => rw [startsCased_stops all, startsCased_stops all]

/-- A break hides what is behind it, as the end of the text does. -/
theorem startsCased_break {c : Char} (ends : isBreak c = true) (s : List Char) :
    startsCased (c :: s) = startsCased [] := by
  have stops : isCaseIgnorable c = false := break_not_ignorable ends
  have uncased : isCased c = false := break_not_cased ends
  simp [startsCased, stops, uncased]

theorem lowerBetween_congr {before before' after after' : List Char} (s : List Char)
    (sameBefore : startsCased before = startsCased before')
    (sameAfter : startsCased after = startsCased after') :
    lowerBetween before s after = lowerBetween before' s after' := by
  induction s generalizing before before' with
  | nil => rfl
  | cons c rest ih =>
    have seenBefore : startsCased (c :: before) = startsCased (c :: before') :=
      startsCased_append_congr [c] sameBefore
    have seenAfter := startsCased_append_congr rest sameAfter
    rw [lowerBetween, lowerBetween, ih seenBefore, lowerAt, lowerAt, endsWord, endsWord, sameBefore,
      seenAfter]

theorem lowerAt_break {c : Char} (ends : isBreak c = true) (before after : List Char) :
    lowerAt before c after = [c] := by
  rw [lowerAt, if_neg (break_ne_sigma ends), lowerChar_break ends]

theorem lower_join {c : Char} (ends : isBreak c = true) (l r : List Char) :
    lower (l ++ c :: r) = lower l ++ c :: lower r := by
  have left : lowerBetween [] l (c :: r) = lower l := by
    rw [lower_eq_between]
    exact lowerBetween_congr l rfl (startsCased_break ends r)
  have right : lowerBetween (c :: l.reverse) r [] = lower r := by
    rw [lower_eq_between]
    exact lowerBetween_congr r (startsCased_break ends l.reverse) rfl
  have split := lowerBetween_append [] l (c :: r) []
  simp only [List.append_nil] at split
  rw [lower_eq_between, split, left, lowerBetween, lowerAt_break ends, right]
  rfl

theorem lower_blanks {s : List Char} (blank : s.all isBlank = true) : lower s = s := by
  induction s with
  | nil => rfl
  | cons c rest ih =>
    rw [List.all_cons, Bool.and_eq_true] at blank
    have joined := lower_join (break_of_blank blank.1) [] rest
    rw [ih blank.2] at joined
    exact joined

theorem lower_blank_front {front : List Char} (blank : front.all isBlank = true) (s : List Char) :
    lower (front ++ s) = front ++ lower s := by
  induction front with
  | nil => rfl
  | cons c rest ih =>
    rw [List.all_cons, Bool.and_eq_true] at blank
    have joined := lower_join (break_of_blank blank.1) [] (rest ++ s)
    rw [ih blank.2] at joined
    exact joined

theorem lower_blank_back {back : List Char} (blank : back.all isBlank = true) (s : List Char) :
    lower (s ++ back) = lower s ++ back := by
  cases back with
  | nil => rw [List.append_nil, List.append_nil]
  | cons c rest =>
    rw [List.all_cons, Bool.and_eq_true] at blank
    rw [lower_join (break_of_blank blank.1), lower_blanks blank.2]

theorem lowerAt_ne_nil (before : List Char) (c : Char) (after : List Char) :
    lowerAt before c after ≠ [] := by
  rw [lowerAt]
  split
  · simp
  · exact lowerChar_ne_nil c

theorem eq_of_break_mem_lowerAt {before after : List Char} {c d : Char} (ends : isBreak d = true)
    (member : d ∈ lowerAt before c after) : d = c := by
  rw [lowerAt] at member
  split at member
  · rw [List.mem_singleton] at member
    subst member
    split at ends <;> exact absurd ends (by decide)
  · exact eq_of_break_mem_lowerChar ends member

theorem break_mem_lowerBetween {d : Char} (ends : isBreak d = true) (before s after : List Char) :
    d ∈ lowerBetween before s after ↔ d ∈ s := by
  induction s generalizing before with
  | nil => rfl
  | cons c rest ih =>
    rw [lowerBetween, List.mem_append, ih, List.mem_cons]
    constructor
    · intro member
      rcases member with here | later
      · exact Or.inl (eq_of_break_mem_lowerAt ends here)
      · exact Or.inr later
    · intro member
      rcases member with rfl | later
      · left
        rw [lowerAt_break ends]
        exact List.mem_singleton.mpr rfl
      · exact Or.inr later

theorem break_mem_lower {d : Char} (ends : isBreak d = true) (s : List Char) : d ∈ lower s ↔ d ∈ s := by
  rw [lower_eq_between]
  exact break_mem_lowerBetween ends [] s []

theorem not_blank_of_mem_lowerAt {before after : List Char} {c d : Char} (dark : isBlank c = false)
    (member : d ∈ lowerAt before c after) : isBlank d = false := by
  cases blank : isBlank d with
  | false => rfl
  | true =>
    rw [eq_of_break_mem_lowerAt (break_of_blank blank) member, dark] at blank
    contradiction

theorem lower_all_blank_iff (s : List Char) : (lower s).all isBlank = true ↔ s.all isBlank = true := by
  constructor
  · intro blank
    rw [List.all_eq_true]
    intro c member
    obtain ⟨front, back, split⟩ := List.append_of_mem member
    obtain ⟨d, tail, some⟩ := List.exists_cons_of_ne_nil (lowerAt_ne_nil front.reverse c back)
    have here : d ∈ lowerAt front.reverse c back := by simp [some]
    have there : d ∈ lower s := by
      rw [split, lower_eq_between, lowerBetween_append, lowerBetween]
      simp [here]
    have dBlank := List.all_eq_true.mp blank d there
    rw [eq_of_break_mem_lowerAt (break_of_blank dBlank) here] at dBlank
    exact dBlank
  · intro blank
    rw [lower_blanks blank]
    exact blank

theorem bare_lower {s : List Char} (bare : Bare s) : Bare (lower s) := by
  rw [lower_eq_between]
  constructor
  · intro d head
    cases s with
    | nil => exact absurd head (by simp [lowerBetween])
    | cons c rest =>
      have first : d ∈ (lowerAt [] c (rest ++ [])).head? := by
        simpa [lowerBetween, lowerAt_ne_nil] using head
      exact not_blank_of_mem_lowerAt (bare.1 c rfl) (List.mem_of_mem_head? first)
  · intro d last
    rcases List.eq_nil_or_concat s with rfl | ⟨init, c, rfl⟩
    · exact absurd last (by simp [lowerBetween])
    · have ending : d ∈ (lowerAt init.reverse c []).getLast? := by
        simpa [lowerBetween_append, lowerBetween, lowerAt_ne_nil] using last
      exact not_blank_of_mem_lowerAt (bare.2 c (by simp)) (List.mem_of_getLast? ending)

theorem lower_trim (s : List Char) : lower (trim s) = trim (lower s) := by
  obtain ⟨front, back, frontBlank, backBlank, split⟩ := blanks_around_trim s
  have lowered : lower s = front ++ lower (trim s) ++ back := by
    rw [split, lower_blank_back backBlank, lower_blank_front frontBlank, ← split]
  rw [lowered, trim_of_bare frontBlank backBlank (bare_lower (trim_is_bare s))]

theorem trim_lower_trim (s : List Char) : trim (lower (trim s)) = lower (trim s) :=
  trim_bare (bare_lower (trim_is_bare s))

/-- What comes out of the mapping is not mapped again, and is not the letter that looks around. -/
theorem settled_of_mem_lowerAt {before after : List Char} {c d : Char}
    (member : d ∈ lowerAt before c after) : d ≠ 'Σ' ∧ lowerChar d = [d] := by
  rw [lowerAt] at member
  split at member
  · rw [List.mem_singleton] at member
    subst member
    split
    · exact ⟨by decide, by decide +kernel⟩
    · exact ⟨by decide, by decide +kernel⟩
  · constructor
    · intro same
      subst same
      exact sigma_not_mem_lowerChar c member
    · exact lowerChar_settled member

theorem settled_of_mem_lowerBetween {before s after : List Char} {d : Char}
    (member : d ∈ lowerBetween before s after) : d ≠ 'Σ' ∧ lowerChar d = [d] := by
  induction s generalizing before with
  | nil => cases member
  | cons c rest ih =>
    rw [lowerBetween, List.mem_append] at member
    rcases member with here | later
    · exact settled_of_mem_lowerAt here
    · exact ih later

theorem lowerBetween_of_settled {s : List Char} (settled : ∀ d ∈ s, d ≠ 'Σ' ∧ lowerChar d = [d])
    (before after : List Char) : lowerBetween before s after = s := by
  induction s generalizing before with
  | nil => rfl
  | cons c rest ih =>
    obtain ⟨plain, fixed⟩ := settled c List.mem_cons_self
    have later := ih fun d member => settled d (List.mem_cons_of_mem c member)
    rw [lowerBetween, lowerAt, if_neg plain, fixed, later]
    rfl

theorem lower_lower (s : List Char) : lower (lower s) = lower s := by
  rw [lower_eq_between (lower s)]
  apply lowerBetween_of_settled
  intro d member
  rw [lower_eq_between] at member
  exact settled_of_mem_lowerBetween member

theorem lower_trim_eq_nil_iff (s : List Char) : lower (trim s) = [] ↔ s.all isBlank = true := by
  rw [lower_trim, trim_eq_nil_iff, lower_all_blank_iff]

end Chars

namespace Text

theorem lower_lower (t : String) : lower (lower t) = lower t := by
  rw [lower, toList_lower, Chars.lower_lower, ← toList_lower, String.ofList_toList]

theorem nonBlank_lower_iff (t : String) : NonBlank (lower t) ↔ NonBlank t := by
  apply Decidable.not_iff_not.mp
  rw [not_nonBlank_iff, not_nonBlank_iff, toList_lower, Chars.lower_all_blank_iff]

theorem nonBlank_lower_trim_iff (t : String) : NonBlank (lower (trim t)) ↔ NonBlank t := by
  apply (nonBlank_lower_iff (trim t)).trans
  apply Decidable.not_iff_not.mp
  rw [not_nonBlank_iff, not_nonBlank_iff, toList_trim, Chars.trim_all_blank_iff]

end Text
end BookSearch
