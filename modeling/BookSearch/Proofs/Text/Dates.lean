import Mathlib.Algebra.Group.Nat.Defs
import BookSearch.Date
import BookSearch.Proofs.Text.Runs
import BookSearch.Proofs.Text.Trimming

/-!
The text of a date reads back, for all years that are represented: four digits without a sign are cut off
before the hyphen, and more digits, or a year before the first one, have a sign in front.
-/
namespace BookSearch
namespace Date

variable {width n : Nat} {rest : List Char}

theorem padded_ne_nil (width n : Nat) : padded width n ≠ [] := by
  simp [padded, Nat.toDigits_ne_nil]

theorem isDigit_of_mem_padded {c : Char} (member : c ∈ padded width n) : c.isDigit = true := by
  rcases List.mem_append.mp member with zero | digit
  · rw [List.eq_of_mem_replicate zero]
    decide
  · exact Digits.isDigit_of_mem digit

theorem ofDigitChars_zeros (count : Nat) : Nat.ofDigitChars 10 (List.replicate count '0') 0 = 0 := by
  induction count with
  | zero => rfl
  | succ count ih => rwa [List.replicate_succ, Nat.ofDigitChars_cons]

theorem ofDigitChars_padded (width n : Nat) : Nat.ofDigitChars 10 (padded width n) 0 = n := by
  simp only [padded]
  rw [Nat.ofDigitChars_append, ofDigitChars_zeros, Digits.ofDigitChars_toDigits]

theorem length_padded (positive : 0 < width) (fits : n < 10 ^ width) : (padded width n).length = width := by
  have short := (Nat.length_toDigits_le_iff (by decide) positive).mpr fits
  simp only [padded, List.length_append, List.length_replicate]
  omega

/-- A number is read up to what is no digit, if it has no more digits than are asked for. -/
theorem readNumber_padded {limit : Nat} (fits : (padded width n).length ≤ limit)
    (ended : ∀ c ∈ rest.head?, c.isDigit = false) :
    readNumber limit (padded width n ++ rest) = .ok (n, rest) := by
  have digits : ∀ c ∈ padded width n, c.isDigit = true := fun _ member => isDigit_of_mem_padded member
  have run := Chars.takeWhile_run digits ended
  rw [readNumber]
  simp [run, List.take_of_length_le fits, padded_ne_nil, ofDigitChars_padded]

theorem not_blank_of_digit {c : Char} (digit : c.isDigit = true) : Chars.isBlank c = false := by
  have code : 48 ≤ c.toNat ∧ c.toNat ≤ 57 := by simpa [Char.isDigit, UInt32.le_iff_toNat_le] using digit
  simp only [Chars.isBlank, Bool.or_eq_false_iff, Bool.and_eq_false_iff, decide_eq_false_iff_not]
  omega

theorem head_padded {c : Char} (front : c ∈ (padded width n ++ rest).head?) : c.isDigit = true := by
  rw [List.head?_append_of_ne_nil _ (padded_ne_nil width n)] at front
  exact isDigit_of_mem_padded (List.mem_of_head? front)

theorem trimStart_padded (width n : Nat) (rest : List Char) :
    Chars.trimStart (padded width n ++ rest) = padded width n ++ rest :=
  Chars.trimStart_of_head fun _ front => not_blank_of_digit (head_padded front)

theorem readYear_unsigned (ended : ∀ c ∈ rest.head?, c.isDigit = false) (fits : n < 10 ^ 4) :
    readYear (padded 4 n ++ rest) = .ok ((n : Int), rest) := by
  have read := readNumber_padded (Nat.le_of_eq (length_padded (by decide) fits)) ended
  unfold readYear
  split
  · rename_i same
    exact absurd (head_padded (Option.mem_def.mpr (congrArg List.head? same))) (by decide)
  · rename_i same
    exact absurd (head_padded (Option.mem_def.mpr (congrArg List.head? same))) (by decide)
  · rw [read]
    rfl

theorem readNumber_signed (ended : ∀ c ∈ rest.head?, c.isDigit = false) :
    readNumber (padded width n ++ rest).length (padded width n ++ rest) = .ok (n, rest) :=
  readNumber_padded (by simp) ended

theorem readYear_yearText {year : Int} (represented : minYear ≤ year ∧ year ≤ maxYear)
    (ended : ∀ c ∈ rest.head?, c.isDigit = false) :
    readYear (Chars.trimStart (yearText year ++ rest)) = .ok (year, rest) := by
  simp only [minYear, maxYear] at represented
  have sign : ∀ {c : Char} (s : List Char), Chars.isBlank c = false → Chars.trimStart (c :: s) = c :: s :=
    fun s dark => Chars.trimStart_of_head (by simpa using dark)
  unfold yearText
  split
  · have within : year.natAbs ≤ 0x80000000 := by omega
    rw [List.cons_append, sign _ (by decide), readYear, readNumber_signed ended]
    simp only [checked, within, decide_true, if_pos, Except.map]
    congr 2
    omega
  · split
    · rw [trimStart_padded, readYear_unsigned ended (by omega)]
      congr 2
      omega
    · have within : year.natAbs < 0x80000000 := by omega
      rw [List.cons_append, sign _ (by decide), readYear, readNumber_signed ended]
      simp only [checked, within, decide_true, if_pos, Except.map]
      congr 2
      omega

theorem readHyphen_next (rest : List Char) : readHyphen (Chars.trimStart ('-' :: rest)) = .ok rest := rfl

theorem read_part (within : Nat → Bool) (inside : within n = true) (two : n < 10 ^ 2)
    (ended : ∀ c ∈ rest.head?, c.isDigit = false) :
    checked within (readNumber 2 (Chars.trimStart (padded 2 n ++ rest))) = .ok (n, rest) := by
  have read := readNumber_padded (Nat.le_of_eq (length_padded (by decide) two)) ended
  rw [trimStart_padded, read, checked]
  simp only [inside, if_pos]

theorem daysIn_le (year : Int) (month : Nat) : daysIn year month ≤ 31 := by
  unfold daysIn
  split
  · split <;> decide
  · split <;> decide

theorem ofText_toText (date : Date) : ofText date.toText = .ok date := by
  obtain ⟨represented, month, day⟩ := date.real
  have short := daysIn_le date.year date.month
  have hyphen : ∀ (s : List Char), ∀ c ∈ ('-' :: s).head?, c.isDigit = false := by simp +decide
  have nothing : ∀ c ∈ ([] : List Char).head?, c.isDigit = false := by simp
  have written : date.toText.toList =
      yearText date.year ++ '-' :: (padded 2 date.month ++ '-' :: (padded 2 date.day ++ [])) := by
    simp [toText, chars]
  have readMonth := read_part (fun n => 1 ≤ n && n ≤ 12) (by simpa using month) (by omega)
    (hyphen (padded 2 date.day ++ []))
  have readDay := read_part (fun n => 1 ≤ n && n ≤ 31) (by simpa using ⟨day.1, Nat.le_trans day.2 short⟩)
    (by omega) nothing
  have real : of? date.year date.month date.day = some date := dif_pos date.real
  rw [ofText, written, read]
  simp only [bind, Except.bind, readYear_yearText represented (hyphen _), readHyphen_next, readMonth, readDay]
  simp only [Chars.trimStart, List.dropWhile_nil, List.isEmpty_nil, if_pos, real]

end Date
end BookSearch
