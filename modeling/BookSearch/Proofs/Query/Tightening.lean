import BookSearch.Proofs.Query.OperatorCuts

/-!
What is left of a text when the blanks next to its operators are dropped: the parts between operators,
trimmed. Only blanks go, and a text stays as it is just when it is tight.
-/
namespace BookSearch
namespace Chars

/-- What is kept of the text before the next operator; right after an operator its first blanks go. -/
def opened (fresh : Bool) (s : List Char) : List Char := if fresh then trimStart s else s

theorem opened_cons_of_dark {fresh : Bool} {c : Char} (dark : (fresh && isBlank c) = false)
    (s : List Char) : opened fresh (c :: s) = c :: s := by
  cases fresh with
  | false => rfl
  | true =>
    apply trimStart_of_head
    intro d head
    simpa [← Option.some.inj head] using dark

theorem tightenAfter_operator {c : Char} (operator : isOperator c = true) (kept : List Char)
    (fresh : Bool) (rest : List Char) :
    tightenAfter kept fresh (c :: rest) = tightenAfter (c :: kept.dropWhile isBlank) true rest := by
  simp only [tightenAfter, operator, if_true]

theorem tightenAfter_plain {s : List Char} (plain : ∀ c ∈ s, isOperator c = false) (kept : List Char)
    (fresh : Bool) (rest : List Char) :
    tightenAfter kept fresh (s ++ rest) =
      tightenAfter ((opened fresh s).reverse ++ kept) (fresh && s.all isBlank) rest := by
  induction s generalizing kept fresh with
  | nil => cases fresh <;> rfl
  | cons c s ih =>
    obtain ⟨here, later⟩ := List.forall_mem_cons.mp plain
    rw [List.cons_append, tightenAfter, here, if_neg (by decide)]
    split
    · rename_i skipped
      obtain ⟨rfl, blank⟩ := Bool.and_eq_true_iff.mp skipped
      rw [ih later, opened, if_pos rfl, opened, if_pos rfl, trimStart_cons_of_blank blank, List.all_cons,
        blank]
      rfl
    · rename_i stays
      have dark : (fresh && isBlank c) = false := by simpa using stays
      rw [ih later, opened_cons_of_dark dark, List.all_cons, ← Bool.and_assoc, dark, opened,
        if_neg (by decide)]
      simp

theorem tightenAfter_last {s : List Char} (plain : ∀ c ∈ s, isOperator c = false) (kept : List Char)
    (fresh : Bool) : tightenAfter kept fresh s = kept.reverse ++ opened fresh s := by
  have run := tightenAfter_plain plain kept fresh []
  rw [List.append_nil] at run
  rw [run, tightenAfter, List.reverse_append, List.reverse_reverse]

/-- What the loop writes from an operator on; all that was written before stays as it is. -/
theorem tightenAfter_text {c : Char} (operator : isOperator c = true) (kept : List Char)
    (cut : OperatorCut) :
    tightenAfter (c :: kept) true cut.text = kept.reverse ++ c :: cut.trimmedBehind := by
  induction cut generalizing c kept with
  | plain s free =>
    rw [OperatorCut.text, tightenAfter_last free, opened, if_pos rfl, List.reverse_cons, List.append_assoc,
      List.singleton_append, OperatorCut.trimmedBehind]
  | ahead s free d next rest ih =>
    -- at the next operator the output loses blanks, but none from before the last operator
    have back : ((trimStart s).reverse ++ c :: kept).dropWhile isBlank = (trim s).reverse ++ c :: kept := by
      have stops := trimStart_before (operator_not_blank operator) (trimStart s).reverse kept
      simpa [trim, trimEnd, trimStart] using stops
    rw [OperatorCut.text, tightenAfter_plain free, tightenAfter_operator next, opened, if_pos rfl, back,
      ih next]
    simp [OperatorCut.trimmedBehind]

theorem tighten_text (cut : OperatorCut) : tighten cut.text = cut.trimmed := by
  cases cut with
  | plain s free =>
    rw [tighten, OperatorCut.text, tightenAfter_last free]
    rfl
  | ahead s free c operator rest =>
    rw [tighten, OperatorCut.text, tightenAfter_plain free, tightenAfter_operator operator,
      tightenAfter_text operator]
    simp [opened, trimEnd, OperatorCut.trimmed]

theorem tighten_eq_trimmed (s : List Char) : tighten s = (OperatorCut.of s).trimmed := by
  rw [← tighten_text, OperatorCut.text_of]

theorem tighten_pair {c : Char} {l r : List Char} (operator : isOperator c = true)
    (plainLeft : ∀ d ∈ l, isOperator d = false) (plainRight : ∀ d ∈ r, isOperator d = false) :
    tighten (l ++ c :: r) = trimEnd l ++ c :: trimStart r :=
  tighten_text (.ahead l plainLeft c operator (.plain r plainRight))

theorem solid_tighten (s : List Char) : solid (tighten s) = solid s := by
  rw [tighten_eq_trimmed, OperatorCut.solid_trimmed, OperatorCut.text_of]

theorem operators_of_solid (s : List Char) : (solid s).filter isOperator = s.filter isOperator := by
  rw [solid, List.filter_filter]
  apply List.filter_congr
  intro c _
  cases operator : isOperator c with
  | false => rfl
  | true => simp [operator_not_blank operator]

theorem tight_tighten (s : List Char) : Tight (tighten s) := by
  rw [tighten_eq_trimmed]
  exact OperatorCut.tight_trimmed _

theorem tighten_eq_self_iff (s : List Char) : tighten s = s ↔ Tight s := by
  constructor
  · intro settled
    rw [← settled]
    exact tight_tighten s
  · intro tight
    rw [← OperatorCut.text_of s] at tight ⊢
    rw [tighten_text, OperatorCut.trimmed_of_tight tight]

example : Tight "spring boot|java".toList ∧ ¬ Tight "spring boot |java".toList := by decide

/-- A text is cut at its operators in one way, and tightening trims the parts between them: nothing but
blanks goes, none is left next to an operator, and tightening again changes nothing. -/
theorem tighten_trims_at_operators (s : List Char) :
    (∀ cut : OperatorCut, cut.text = s ↔ cut = OperatorCut.of s) ∧
      tighten s = (OperatorCut.of s).trimmed ∧
      (tighten s).filter isOperator = s.filter isOperator ∧ solid (tighten s) = solid s ∧
      Tight (tighten s) ∧ tighten (tighten s) = tighten s := by
  refine ⟨?_, tighten_eq_trimmed s, ?_, solid_tighten s, tight_tighten s, ?_⟩
  · intro cut
    exact OperatorCut.text_eq_iff cut s
  · rw [← operators_of_solid, solid_tighten, operators_of_solid]
  · exact (tighten_eq_self_iff _).mpr (tight_tighten s)

/-- Blank parts, one operator after the other, and blanks at both ends. -/
example : tighten " \t| a  b -\u3000- |\u00a0".toList = "|a  b--|".toList := by decide

end Chars
end BookSearch
