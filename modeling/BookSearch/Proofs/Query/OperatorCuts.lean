import Mathlib.Data.List.Chain
import BookSearch.Proofs.Text.CaseTables
import BookSearch.Proofs.Text.Trimming

/-!
A text cut at its operators: the parts between them hold none, and each text is cut in one way. With the
parts trimmed at the sides where an operator stands, the text is tight: no operator has a blank next to it.
-/
namespace BookSearch
namespace Chars

inductive OperatorCut where
  | plain (s : List Char) (free : ∀ c ∈ s, isOperator c = false)
  | ahead (s : List Char) (free : ∀ c ∈ s, isOperator c = false) (c : Char)
      (operator : isOperator c = true) (rest : OperatorCut)

namespace OperatorCut

def text : OperatorCut → List Char
  | plain s _ => s
  | ahead s _ c _ rest => s ++ c :: rest.text

def push (c : Char) (dull : isOperator c = false) : OperatorCut → OperatorCut
  | plain s free => plain (c :: s) (List.forall_mem_cons.mpr ⟨dull, free⟩)
  | ahead s free d operator rest => ahead (c :: s) (List.forall_mem_cons.mpr ⟨dull, free⟩) d operator rest

def of : List Char → OperatorCut
  | [] => plain [] (List.forall_mem_nil _)
  | c :: rest =>
    if operator : isOperator c = true then ahead [] (List.forall_mem_nil _) c operator (of rest)
    else (of rest).push c (Bool.eq_false_iff.mpr operator)

/-- The text after an operator: each part is trimmed at both ends, and the last one only at its start. -/
def trimmedBehind : OperatorCut → List Char
  | plain s _ => trimStart s
  | ahead s _ c _ rest => trim s ++ c :: rest.trimmedBehind

/-- No blank is taken away at the two ends of the text, and none from a text without operators. -/
def trimmed : OperatorCut → List Char
  | plain s _ => s
  | ahead s _ c _ rest => trimEnd s ++ c :: rest.trimmedBehind

theorem text_push (c : Char) (dull : isOperator c = false) (cut : OperatorCut) :
    (cut.push c dull).text = c :: cut.text := by
  cases cut <;> rfl

theorem text_of (s : List Char) : (of s).text = s := by
  induction s with
  | nil => rfl
  | cons c rest ih =>
    rw [of]
    split
    · rw [text, ih, List.nil_append]
    · rw [text_push, ih]

theorem of_cons_dull {c : Char} (dull : isOperator c = false) (rest : List Char) :
    of (c :: rest) = (of rest).push c dull := by
  rw [of, dif_neg (Bool.eq_false_iff.mp dull)]

theorem of_plain {s : List Char} (free : ∀ c ∈ s, isOperator c = false) : of s = plain s free := by
  induction s with
  | nil => rfl
  | cons c s ih =>
    obtain ⟨here, later⟩ := List.forall_mem_cons.mp free
    rw [of_cons_dull here, ih later, push]

theorem of_ahead {s : List Char} (free : ∀ c ∈ s, isOperator c = false) {c : Char}
    (operator : isOperator c = true) (rest : List Char) :
    of (s ++ c :: rest) = ahead s free c operator (of rest) := by
  induction s with
  | nil => rw [List.nil_append, of, dif_pos operator]
  | cons d s ih =>
    obtain ⟨here, later⟩ := List.forall_mem_cons.mp free
    rw [List.cons_append, of_cons_dull here, ih later, push]

theorem of_text (cut : OperatorCut) : of cut.text = cut := by
  induction cut with
  | plain s free => exact of_plain free
  | ahead s free c operator rest ih => rw [text, of_ahead free operator, ih]

theorem text_eq_iff (cut : OperatorCut) (s : List Char) : cut.text = s ↔ cut = of s := by
  constructor
  · rintro rfl
    exact (of_text cut).symm
  · rintro rfl
    exact text_of s

end OperatorCut

def Apart (c d : Char) : Prop :=
  (isOperator c = true → isBlank d = false) ∧ (isOperator d = true → isBlank c = false)

instance : DecidableRel Apart := fun _ _ => inferInstanceAs (Decidable (_ ∧ _))

def Tight (s : List Char) : Prop := s.IsChain Apart

instance (s : List Char) : Decidable (Tight s) := inferInstanceAs (Decidable (s.IsChain Apart))

theorem operator_apart_iff {c : Char} (operator : isOperator c = true) (d : Char) :
    Apart c d ↔ isBlank d = false := by
  simp [Apart, operator, operator_not_blank operator]

theorem apart_operator_iff {d : Char} (operator : isOperator d = true) (c : Char) :
    Apart c d ↔ isBlank c = false := by
  simp [Apart, operator, operator_not_blank operator]

theorem tight_of_plain {s : List Char} (free : ∀ c ∈ s, isOperator c = false) : Tight s := by
  induction s with
  | nil => exact List.isChain_nil
  | cons c s ih =>
    obtain ⟨here, later⟩ := List.forall_mem_cons.mp free
    refine List.isChain_cons.mpr ⟨?_, ih later⟩
    intro d head
    simp [Apart, here, later d (List.mem_of_mem_head? head)]

theorem tight_operator_cons {c : Char} (operator : isOperator c = true) (s : List Char) :
    Tight (c :: s) ↔ (∀ d ∈ s.head?, isBlank d = false) ∧ Tight s := by
  rw [Tight, List.isChain_cons]
  simp only [operator_apart_iff operator, Tight]

theorem tight_before_operator {s : List Char} (free : ∀ c ∈ s, isOperator c = false) {c : Char}
    (operator : isOperator c = true) (rest : List Char) :
    Tight (s ++ c :: rest) ↔ (∀ d ∈ s.getLast?, isBlank d = false) ∧ Tight (c :: rest) := by
  have front : s.IsChain Apart := tight_of_plain free
  rw [Tight, List.isChain_append, List.head?_cons]
  simp only [front, true_and, Option.mem_some_iff, forall_eq', apart_operator_iff operator, Tight]
  exact and_comm

theorem dark_head_before_operator {c : Char} (operator : isOperator c = true) (s rest : List Char) :
    (∀ d ∈ (s ++ c :: rest).head?, isBlank d = false) ↔ ∀ d ∈ s.head?, isBlank d = false := by
  cases s <;> simp [operator_not_blank operator]

namespace OperatorCut

theorem solid_trimmedBehind (cut : OperatorCut) : solid cut.trimmedBehind = solid cut.text := by
  induction cut with
  | plain s free => exact solid_trimStart s
  | ahead s free c operator rest ih =>
    have dark := operator_not_blank operator
    rw [trimmedBehind, text, solid_append, solid_append, solid_trim, solid_cons_of_not_blank dark, ih,
      solid_cons_of_not_blank dark]

theorem solid_trimmed (cut : OperatorCut) : solid cut.trimmed = solid cut.text := by
  cases cut with
  | plain s free => rfl
  | ahead s free c operator rest =>
    have dark := operator_not_blank operator
    rw [trimmed, text, solid_append, solid_append, solid_trimEnd, solid_cons_of_not_blank dark,
      solid_trimmedBehind, solid_cons_of_not_blank dark]

theorem head_trimmedBehind (cut : OperatorCut) : ∀ c ∈ cut.trimmedBehind.head?, isBlank c = false := by
  cases cut with
  | plain s free => exact fun c head => head_of_dropped_blanks head
  | ahead s free c operator rest =>
    exact (dark_head_before_operator operator _ _).mpr (trim_is_bare s).1

theorem tight_trimmedBehind (cut : OperatorCut) : Tight cut.trimmedBehind := by
  induction cut with
  | plain s free => exact tight_of_plain fun c member => free c (mem_of_mem_trimStart member)
  | ahead s free c operator rest ih =>
    have part : ∀ d ∈ trim s, isOperator d = false := fun d member => free d (mem_of_mem_trim member)
    have behind : Tight (c :: rest.trimmedBehind) :=
      (tight_operator_cons operator _).mpr ⟨rest.head_trimmedBehind, ih⟩
    exact (tight_before_operator part operator _).mpr ⟨(trim_is_bare s).2, behind⟩

theorem tight_trimmed (cut : OperatorCut) : Tight cut.trimmed := by
  cases cut with
  | plain s free => exact tight_of_plain free
  | ahead s free c operator rest =>
    have part : ∀ d ∈ trimEnd s, isOperator d = false := fun d member => free d (mem_of_mem_trimEnd member)
    have behind : Tight (c :: rest.trimmedBehind) :=
      (tight_operator_cons operator _).mpr ⟨rest.head_trimmedBehind, rest.tight_trimmedBehind⟩
    exact (tight_before_operator part operator _).mpr ⟨fun d last => last_of_trimEnd last, behind⟩

theorem trimmedBehind_of_tight {cut : OperatorCut} (front : ∀ c ∈ cut.text.head?, isBlank c = false)
    (tight : Tight cut.text) : cut.trimmedBehind = cut.text := by
  induction cut with
  | plain s free => exact trimStart_of_head front
  | ahead s free c operator rest ih =>
    rw [text, dark_head_before_operator operator] at front
    rw [text, tight_before_operator free operator, tight_operator_cons operator] at tight
    obtain ⟨back, next, later⟩ := tight
    rw [trimmedBehind, text, trim_bare ⟨front, back⟩, ih next later]

theorem trimmed_of_tight {cut : OperatorCut} (tight : Tight cut.text) : cut.trimmed = cut.text := by
  cases cut with
  | plain s free => rfl
  | ahead s free c operator rest =>
    rw [text, tight_before_operator free operator, tight_operator_cons operator] at tight
    obtain ⟨back, next, later⟩ := tight
    rw [trimmed, text, trimEnd_of_last back, trimmedBehind_of_tight next later]

end OperatorCut
end Chars
end BookSearch
