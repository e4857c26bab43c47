import BookSearch.Text.Basic

/-!
What trimming keeps. A text is its trimmed form between two runs of blanks, and the trimmed form has no
blank at either end; nothing else has both properties.
-/
namespace BookSearch
namespace Chars

def Bare (s : List Char) : Prop :=
  (∀ c ∈ s.head?, isBlank c = false) ∧ (∀ c ∈ s.getLast?, isBlank c = false)

def solid (s : List Char) : List Char := s.filter fun c => !isBlank c

@[simp] theorem solid_nil : solid [] = [] := rfl

@[simp] theorem solid_append (s t : List Char) : solid (s ++ t) = solid s ++ solid t :=
  List.filter_append s t

theorem solid_cons_of_blank {c : Char} (blank : isBlank c = true) (s : List Char) :
    solid (c :: s) = solid s := by
  simp [solid, blank]

theorem solid_cons_of_not_blank {c : Char} (dark : isBlank c = false) (s : List Char) :
    solid (c :: s) = c :: solid s := by
  simp [solid, dark]

theorem solid_reverse (s : List Char) : solid s.reverse = (solid s).reverse := by
  simp [solid]

theorem solid_eq_nil_iff (s : List Char) : solid s = [] ↔ s.all isBlank = true := by
  simp [solid]

theorem trimStart_cons_of_blank {c : Char} (blank : isBlank c = true) (s : List Char) :
    trimStart (c :: s) = trimStart s :=
  List.dropWhile_cons_of_pos blank

theorem solid_trimStart (s : List Char) : solid (trimStart s) = solid s := by
  induction s with
  | nil => rfl
  | cons c rest ih =>
    by_cases blank : isBlank c = true
    · rw [trimStart_cons_of_blank blank, ih, solid_cons_of_blank blank]
    · rw [trimStart, List.dropWhile_cons_of_neg blank]

theorem solid_trimEnd (s : List Char) : solid (trimEnd s) = solid s := by
  rw [trimEnd, ← trimStart, solid_reverse, solid_trimStart, solid_reverse, List.reverse_reverse]

theorem solid_trim (s : List Char) : solid (trim s) = solid s := by
  rw [trim, solid_trimEnd, solid_trimStart]

theorem trim_all_blank_iff (s : List Char) : (trim s).all isBlank = true ↔ s.all isBlank = true := by
  rw [← solid_eq_nil_iff, solid_trim, solid_eq_nil_iff]

theorem head_of_dropped_blanks {s : List Char} {c : Char} (head : c ∈ (s.dropWhile isBlank).head?) :
    isBlank c = false := by
  have stopped := List.head?_dropWhile_not isBlank s
  rw [Option.mem_def] at head
  rw [head] at stopped
  simpa using stopped

theorem last_of_trimEnd {s : List Char} {c : Char} (last : c ∈ (trimEnd s).getLast?) :
    isBlank c = false := by
  rw [trimEnd, List.getLast?_reverse] at last
  exact head_of_dropped_blanks last

theorem trimStart_blank_front {front : List Char} (blank : front.all isBlank = true) (s : List Char) :
    trimStart (front ++ s) = trimStart s :=
  List.dropWhile_append_of_pos (List.all_eq_true.mp blank)

theorem trimStart_of_head {s : List Char} (dark : ∀ c ∈ s.head?, isBlank c = false) :
    trimStart s = s := by
  cases s with
  | nil => rfl
  | cons c rest =>
    have here := dark c rfl
    simp [trimStart, here]

theorem trimEnd_blank_back {back : List Char} (blank : back.all isBlank = true) (s : List Char) :
    trimEnd (s ++ back) = trimEnd s := by
  have reversed : ∀ c ∈ back.reverse, isBlank c = true := by
    intro c member
    exact List.all_eq_true.mp blank c (List.mem_reverse.mp member)
  rw [trimEnd, List.reverse_append, List.dropWhile_append_of_pos reversed, trimEnd]

theorem trimEnd_of_last {s : List Char} (dark : ∀ c ∈ s.getLast?, isBlank c = false) :
    trimEnd s = s := by
  have reversed : trimStart s.reverse = s.reverse := by
    apply trimStart_of_head
    intro c head
    exact dark c (by simpa using head)
  have kept := congrArg List.reverse reversed
  rwa [List.reverse_reverse] at kept

theorem trimStart_split (s : List Char) :
    ∃ front, front.all isBlank = true ∧ s = front ++ trimStart s :=
  ⟨s.takeWhile isBlank, by simp, (List.takeWhile_append_dropWhile).symm⟩

theorem trimEnd_split (s : List Char) :
    ∃ back, back.all isBlank = true ∧ s = trimEnd s ++ back := by
  obtain ⟨front, blank, split⟩ := trimStart_split s.reverse
  refine ⟨front.reverse, by simpa using blank, ?_⟩
  have reversed := congrArg List.reverse split
  rwa [List.reverse_reverse, List.reverse_append] at reversed

theorem blanks_around_trim (s : List Char) :
    ∃ front back, front.all isBlank = true ∧ back.all isBlank = true ∧ s = front ++ trim s ++ back := by
  obtain ⟨front, frontBlank, fromStart⟩ := trimStart_split s
  obtain ⟨back, backBlank, fromEnd⟩ := trimEnd_split (trimStart s)
  refine ⟨front, back, frontBlank, backBlank, ?_⟩
  rw [List.append_assoc, trim, ← fromEnd, ← fromStart]

theorem trim_is_bare (s : List Char) : Bare (trim s) := by
  obtain ⟨back, _, split⟩ := trimEnd_split (trimStart s)
  constructor
  · intro c head
    have first : c ∈ (trimStart s).head? := by
      rw [split, List.head?_append, ← trim, Option.mem_def.mp head]
      rfl
    exact head_of_dropped_blanks first
  · intro c last
    exact last_of_trimEnd last

/-- Trimming is the only way to take blanks from both ends until none is left there. -/
theorem trim_of_bare {front core back : List Char} (frontBlank : front.all isBlank = true)
    (backBlank : back.all isBlank = true) (bare : Bare core) : trim (front ++ core ++ back) = core := by
  rw [List.append_assoc, trim, trimStart_blank_front frontBlank]
  cases core with
  | nil =>
    have gone : trimStart back = [] := by
      have all := trimStart_blank_front backBlank []
      rwa [List.append_nil] at all
    rw [List.nil_append, gone]
    rfl
  | cons c rest =>
    have stays : trimStart (c :: rest ++ back) = c :: rest ++ back :=
      trimStart_of_head (fun d head => bare.1 d head)
    rw [stays, trimEnd_blank_back backBlank, trimEnd_of_last bare.2]

theorem mem_of_mem_trimStart {s : List Char} {c : Char} (member : c ∈ trimStart s) : c ∈ s :=
  (List.dropWhile_sublist isBlank).subset member

theorem mem_of_mem_trimEnd {s : List Char} {c : Char} (member : c ∈ trimEnd s) : c ∈ s := by
  rw [trimEnd, List.mem_reverse] at member
  exact List.mem_reverse.mp (mem_of_mem_trimStart member)

theorem mem_of_mem_trim {s : List Char} {c : Char} (member : c ∈ trim s) : c ∈ s :=
  mem_of_mem_trimStart (mem_of_mem_trimEnd member)

theorem trim_bare {s : List Char} (bare : Bare s) : trim s = s := by
  have nothing : ([] : List Char).all isBlank = true := rfl
  have core := trim_of_bare nothing nothing bare
  simpa using core

theorem trimStart_before {c : Char} (dark : isBlank c = false) (l r : List Char) :
    trimStart (l ++ c :: r) = trimStart l ++ c :: r := by
  induction l with
  | nil =>
    apply trimStart_of_head
    intro d head
    rwa [← Option.some.inj head]
  | cons d rest ih =>
    by_cases blank : isBlank d = true
    · simpa [trimStart, blank] using ih
    · simp [trimStart, blank]

theorem trimEnd_after {c : Char} (dark : isBlank c = false) (l r : List Char) :
    trimEnd (l ++ c :: r) = l ++ c :: trimEnd r := by
  have reversed := congrArg List.reverse (trimStart_before dark r.reverse l.reverse)
  simpa [trimEnd, trimStart] using reversed

theorem trim_around {c : Char} (dark : isBlank c = false) (l r : List Char) :
    trim (l ++ c :: r) = trimStart l ++ c :: trimEnd r := by
  rw [trim, trimStart_before dark, trimEnd_after dark]

theorem trimStart_trimEnd (s : List Char) : trimStart (trimEnd s) = trim s := by
  obtain ⟨back, backBlank, fromEnd⟩ := trimEnd_split s
  obtain ⟨front, frontBlank, fromStart⟩ := trimStart_split (trimEnd s)
  have bare : Bare (trimStart (trimEnd s)) := by
    constructor
    · intro c head
      exact head_of_dropped_blanks head
    · intro c last
      have ending : c ∈ (trimEnd s).getLast? := by
        rw [fromStart, List.getLast?_append, Option.mem_def.mp last]
        rfl
      exact last_of_trimEnd ending
  have whole : s = front ++ trimStart (trimEnd s) ++ back := by rw [← fromStart, ← fromEnd]
  have core := trim_of_bare frontBlank backBlank bare
  rw [← whole] at core
  exact core.symm

theorem trim_eq_nil_iff (s : List Char) : trim s = [] ↔ s.all isBlank = true := by
  rw [← solid_eq_nil_iff, ← solid_trim]
  constructor
  · intro empty
    rw [empty, solid_nil]
  · intro hollow
    cases found : trim s with
    | nil => rfl
    | cons c rest =>
      have dark := (trim_is_bare s).1 c (by simp [found])
      rw [found, solid_cons_of_not_blank dark] at hollow
      contradiction

end Chars

namespace Text

def NonBlank (t : String) : Prop := ∃ c ∈ t.toList, Chars.isBlank c = false

theorem nonBlank_iff (t : String) : NonBlank t ↔ isBlank t = false := by
  simp [NonBlank, isBlank]

instance (t : String) : Decidable (NonBlank t) := decidable_of_iff _ (nonBlank_iff t).symm

theorem not_nonBlank_iff (t : String) : ¬ NonBlank t ↔ t.toList.all Chars.isBlank = true := by
  rw [nonBlank_iff, Bool.not_eq_false, isBlank]

theorem trim_isEmpty_iff (t : String) : (trim t).isEmpty = true ↔ ¬ NonBlank t := by
  rw [String.isEmpty_iff, ← String.toList_eq_nil_iff, toList_trim, Chars.trim_eq_nil_iff, not_nonBlank_iff]

end Text
end BookSearch
