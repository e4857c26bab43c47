import BookSearch.Query

/-!
What is read off the case tables. Blanks and operators end words: they have no case, a look for a
neighbouring letter does not skip them, they are their own lowercase, and no other character becomes one.
And what the lowercase mapping leads to, it leaves alone.
-/
namespace BookSearch
namespace Chars

def isBreak (c : Char) : Bool := isBlank c || isOperator c

def breakCodes : List Nat :=
  [0x09, 0x0a, 0x0b, 0x0c, 0x0d, 0x20, 0x2d, 0x7c, 0x85, 0xa0, 0x1680, 0x2000, 0x2001, 0x2002, 0x2003,
   0x2004, 0x2005, 0x2006, 0x2007, 0x2008, 0x2009, 0x200a, 0x2028, 0x2029, 0x202f, 0x205f, 0x3000]

theorem break_of_blank {c : Char} (blank : isBlank c = true) : isBreak c = true := by
  simp [isBreak, blank]

theorem break_of_operator {c : Char} (operator : isOperator c = true) : isBreak c = true := by
  simp [isBreak, operator]

theorem operator_cases {c : Char} (operator : isOperator c = true) :
    c = unionOperator ∨ c = differenceOperator := by
  simpa [isOperator] using operator

theorem operator_not_blank {c : Char} (operator : isOperator c = true) : isBlank c = false := by
  rcases operator_cases operator with rfl | rfl <;> decide

theorem break_code_listed {c : Char} (ends : isBreak c = true) : c.toNat ∈ breakCodes := by
  rw [isBreak, Bool.or_eq_true] at ends
  rcases ends with blank | operator
  · simp only [isBlank, Bool.or_eq_true, Bool.and_eq_true, decide_eq_true_eq] at blank
    simp only [breakCodes, List.mem_cons, List.not_mem_nil, or_false]
    omega
  · rcases operator_cases operator with rfl | rfl <;> decide

namespace CaseRun

def lastTarget (run : CaseRun) : Nat := run.target + (run.last - run.first)

def avoids (codes : List Nat) (run : CaseRun) : Bool :=
  codes.all fun code => code < run.target || run.lastTarget < code

def isScalar (run : CaseRun) : Bool :=
  run.lastTarget < 0xd800 || (0xdfff < run.target && run.lastTarget < 0x110000)

structure Reaches (run : CaseRun) (code : Nat) : Prop where
  low : run.target ≤ code
  high : code ≤ run.lastTarget
  onStep : (code - run.target) % run.step = 0

theorem apply_keeps_or_moves (runs : List CaseRun) (code : Nat) :
    apply runs code = code ∨ ∃ run ∈ runs, run.Reaches (apply runs code) := by
  induction runs with
  | nil => exact Or.inl rfl
  | cons run rest ih =>
    simp only [apply]
    split
    · exact Or.inl rfl
    · split
      · split
        · rename_i onStep
          refine Or.inr ⟨run, by simp, Nat.le_add_right _ _, ?_, ?_⟩
          · simp only [lastTarget]
            omega
          · rw [Nat.add_sub_cancel_left]
            exact onStep
        · exact Or.inl rfl
      · rcases ih with keeps | ⟨other, member, reaches⟩
        · exact Or.inl keeps
        · exact Or.inr ⟨other, List.mem_cons_of_mem run member, reaches⟩

/-- Nothing that the run leads to is a code point that `other` moves: it lies outside, or both runs go in
steps of two and it lies between the steps. -/
def skips (run other : CaseRun) : Bool :=
  (run.lastTarget.blt other.first || other.last.blt run.target) ||
    ((other.step.beq 2 && ((run.target + other.first) % 2).beq 1) &&
      (run.step.beq 2 || run.first.beq run.last))

theorem apply_of_skips {run : CaseRun} {code : Nat} (reaches : run.Reaches code) (runs : List CaseRun)
    (skipped : ∀ other ∈ runs, run.skips other = true) : apply runs code = code := by
  induction runs with
  | nil => rfl
  | cons other rest ih =>
    have later := ih fun next member => skipped next (List.mem_cons_of_mem other member)
    have here := skipped other List.mem_cons_self
    simp only [skips, Bool.or_eq_true, Bool.and_eq_true, Nat.blt_eq, Nat.beq_eq] at here
    obtain ⟨low, high, onStep⟩ := reaches
    rw [apply, later]
    split
    · rfl
    · split
      · split
        · rename_i offFirst inside onOther
          rcases here with (below | above) | ⟨⟨otherStep, parity⟩, steps | single⟩
          · omega
          · omega
          · rw [steps] at onStep
            rw [otherStep] at onOther
            omega
          · have same : run.lastTarget = run.target := by simp only [lastTarget]; omega
            rw [otherStep] at onOther
            omega
        · rfl
      · rfl

end CaseRun

theorem break_codes_outside_tables : ∀ code ∈ breakCodes,
    CodeRange.anyCovers casedRanges code = false ∧
      CodeRange.anyCovers caseIgnorableRanges code = false ∧
        CaseRun.apply lowercaseRuns code = code := by
  decide +kernel

theorem lowercase_runs_avoid_breaks :
    ∀ run ∈ lowercaseRuns, run.avoids ('İ'.toNat :: breakCodes) = true ∧ run.isScalar = true := by
  decide +kernel

theorem lowercase_runs_settled :
    (lowercaseRuns.all fun run => lowercaseRuns.all fun other => run.skips other) = true := by
  decide +kernel

theorem break_not_cased {c : Char} (ends : isBreak c = true) : isCased c = false :=
  (break_codes_outside_tables _ (break_code_listed ends)).1

theorem break_not_ignorable {c : Char} (ends : isBreak c = true) : isCaseIgnorable c = false :=
  (break_codes_outside_tables _ (break_code_listed ends)).2.1

theorem break_ne_sigma {c : Char} (ends : isBreak c = true) : c ≠ 'Σ' := by
  intro same
  subst same
  exact absurd ends (by decide)

theorem lowerChar_break {c : Char} (ends : isBreak c = true) : lowerChar c = [c] := by
  have plain : c ≠ 'İ' := by
    intro same
    subst same
    exact absurd ends (by decide)
  have fixed := (break_codes_outside_tables _ (break_code_listed ends)).2.2
  rw [lowerChar, if_neg plain, fixed, Char.ofNat_toNat]

theorem toNat_of_reached {run : CaseRun} {code : Nat} (scalar : run.isScalar = true)
    (reaches : run.Reaches code) : (Char.ofNat code).toNat = code := by
  obtain ⟨low, high, _⟩ := reaches
  simp only [CaseRun.isScalar, Bool.or_eq_true, Bool.and_eq_true, decide_eq_true_eq] at scalar
  have valid : code.isValidChar := by
    simp only [Nat.isValidChar]
    omega
  rw [Char.ofNat, dif_pos valid]
  rfl

theorem ne_of_reached {run : CaseRun} {code : Nat} {codes : List Nat} (avoids : run.avoids codes = true)
    (reaches : run.Reaches code) : code ∉ codes := by
  intro listed
  obtain ⟨low, high, _⟩ := reaches
  have outside := List.all_eq_true.mp avoids code listed
  simp only [Bool.or_eq_true, decide_eq_true_eq] at outside
  omega

theorem lowerChar_cases {c d : Char} (plain : c ≠ 'İ') (member : d ∈ lowerChar c) :
    (d = c ∧ CaseRun.apply lowercaseRuns c.toNat = c.toNat) ∨
      ∃ run ∈ lowercaseRuns, run.isScalar = true ∧ run.avoids ('İ'.toNat :: breakCodes) = true ∧
        run.Reaches d.toNat := by
  rw [lowerChar, if_neg plain, List.mem_singleton] at member
  rcases CaseRun.apply_keeps_or_moves lowercaseRuns c.toNat with keeps | ⟨run, listed, reaches⟩
  · left
    rw [member, keeps, Char.ofNat_toNat]
    exact ⟨rfl, rfl⟩
  · right
    obtain ⟨avoids, scalar⟩ := lowercase_runs_avoid_breaks run listed
    refine ⟨run, listed, scalar, avoids, ?_⟩
    rw [member, toNat_of_reached scalar reaches]
    exact reaches

theorem eq_of_break_mem_lowerChar {c d : Char} (ends : isBreak d = true) (member : d ∈ lowerChar c) :
    d = c := by
  by_cases dotted : c = 'İ'
  · rw [dotted, lowerChar, if_pos rfl] at member
    simp only [List.mem_cons, List.not_mem_nil, or_false] at member
    rcases member with rfl | rfl <;> exact absurd ends (by decide)
  · rcases lowerChar_cases dotted member with ⟨same, _⟩ | ⟨run, _, _, avoids, reaches⟩
    · exact same
    · exact absurd (List.mem_cons_of_mem _ (break_code_listed ends)) (ne_of_reached avoids reaches)

theorem lowerChar_settled {c d : Char} (member : d ∈ lowerChar c) : lowerChar d = [d] := by
  by_cases dotted : c = 'İ'
  · rw [dotted, lowerChar, if_pos rfl] at member
    simp only [List.mem_cons, List.not_mem_nil, or_false] at member
    rcases member with rfl | rfl <;> decide +kernel
  · rcases lowerChar_cases dotted member with ⟨rfl, keeps⟩ | ⟨run, listed, _, avoids, reaches⟩
    · rw [lowerChar, if_neg dotted, keeps, Char.ofNat_toNat]
    · have plain : d ≠ 'İ' := by
        intro same
        subst same
        exact ne_of_reached avoids reaches List.mem_cons_self
      have fixed := CaseRun.apply_of_skips reaches lowercaseRuns
        (List.all_eq_true.mp (List.all_eq_true.mp lowercase_runs_settled run listed))
      rw [lowerChar, if_neg plain, fixed, Char.ofNat_toNat]

/-- No character but Σ is mapped to Σ by the table, and Σ is mapped away. -/
theorem sigma_not_mem_lowerChar (c : Char) : 'Σ' ∉ lowerChar c := by
  intro member
  have settled := lowerChar_settled member
  exact absurd settled (by decide +kernel)

theorem lowerChar_ne_nil (c : Char) : lowerChar c ≠ [] := by
  rw [lowerChar]
  split <;> simp

end Chars
end BookSearch
