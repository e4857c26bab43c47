import Mathlib.Data.List.Basic

/-!
Runs of characters of one kind. A run is taken whole where no other character of its kind comes after it,
and so the first place of a character cuts a text into one front and one back only. The decimal digits of
a number are such a run; they read back, and none of them is a leading zero.
-/
namespace BookSearch
namespace Chars

section Run

variable {kind : Char → Bool} {run rest : List Char} (all : ∀ c ∈ run, kind c = true)
  (ended : ∀ c ∈ rest.head?, kind c = false)
include all ended

theorem takeWhile_run : (run ++ rest).takeWhile kind = run := by
  rw [List.takeWhile_append_of_pos all]
  cases rest with
  | nil => simp
  | cons c rest => simp [ended c rfl]

theorem dropWhile_run : (run ++ rest).dropWhile kind = rest := by
  rw [List.dropWhile_append_of_pos all]
  cases rest with
  | nil => rfl
  | cons c rest => simp [ended c rfl]

end Run

section FirstPlace

variable {c : Char} {l : List Char} (first : c ∉ l) (r : List Char)
include first

theorem before_first : ∀ d ∈ l, decide (d ≠ c) = true := by
  intro d member
  exact decide_eq_true fun equal => first (equal ▸ member)

theorem takeWhile_first : (l ++ c :: r).takeWhile (· ≠ c) = l :=
  takeWhile_run (before_first first) (by simp)

theorem dropWhile_first : (l ++ c :: r).dropWhile (· ≠ c) = c :: r :=
  dropWhile_run (before_first first) (by simp)

end FirstPlace

theorem first_split_unique {c : Char} {l r l' r' : List Char} (first : c ∉ l) (first' : c ∉ l')
    (same : l ++ c :: r = l' ++ c :: r') : l = l' ∧ r = r' := by
  have left : l = l' := by rw [← takeWhile_first first r, same, takeWhile_first first']
  have right : c :: r = c :: r' := by rw [← dropWhile_first first r, same, dropWhile_first first']
  exact ⟨left, (List.cons.inj right).2⟩

end Chars

namespace Digits

theorem head_toDigits {n : Nat} (positive : 0 < n) : (Nat.toDigits 10 n).head? ≠ some '0' := by
  induction n using Nat.strongRecOn with
  | ind n ih =>
    rw [Nat.toDigits_eq_if (by decide)]
    split
    · rename_i single
      simpa using Nat.ne_of_gt positive
    · have front := ih (n / 10) (by omega) (by omega)
      rwa [List.head?_append_of_ne_nil _ Nat.toDigits_ne_nil]

theorem isDigit_of_mem {n : Nat} {c : Char} (member : c ∈ Nat.toDigits 10 n) : c.isDigit = true :=
  Nat.isDigit_of_mem_toDigits (by decide) (by decide) member

theorem ofDigitChars_toDigits (n : Nat) : Nat.ofDigitChars 10 (Nat.toDigits 10 n) 0 = n :=
  Nat.ofDigitChars_toDigits (by decide) (by decide)

end Digits
end BookSearch
