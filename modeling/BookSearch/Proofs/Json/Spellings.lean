import BookSearch.Json.Token
import BookSearch.Proofs.Text.Runs

/-!
The spellings of strings and numbers in a JSON text. A character may stand for itself, behind a backslash or as
its code units in hexadecimal digits, and a number may have a power of ten behind it. Whichever spelling is
chosen, the scanner takes all of it and finds what was spelt.
-/
namespace BookSearch
namespace Json

section Strings

inductive SpellsUnit (unit : Nat) : List Char → Prop where
  | digits {p q r s : Char} {a b c d : Nat} (first : hexValue? p = some a) (second : hexValue? q = some b)
      (third : hexValue? r = some c) (fourth : hexValue? s = some d)
      (code : unit = ((a * 16 + b) * 16 + c) * 16 + d) : SpellsUnit unit [p, q, r, s]

def escapeLetters : List (Char × Char) :=
  [('"', '"'), ('\\', '\\'), ('/', '/'), ('b', '\x08'), ('f', '\x0c'), ('n', '\n'), ('r', '\r'), ('t', '\t')]

inductive SpellsChar (c : Char) : List Char → Prop where
  | plain (noQuote : c ≠ '"') (noBackslash : c ≠ '\\') (noControl : 0x20 ≤ c.toNat) : SpellsChar c [c]
  | letter {l : Char} (listed : (l, c) ∈ escapeLetters) : SpellsChar c ['\\', l]
  | unit {s : List Char} (digits : SpellsUnit c.toNat s) : SpellsChar c ('\\' :: 'u' :: s)
  | pair {high low : Nat} {s t : List Char} (isHigh : isHighHalf high = true) (isLow : isLowHalf low = true)
      (first : SpellsUnit high s) (second : SpellsUnit low t)
      (code : c.toNat = 0x10000 + (high - 0xd800) * 0x400 + (low - 0xdc00)) :
      SpellsChar c ('\\' :: 'u' :: (s ++ '\\' :: 'u' :: t))

/-- Half of a surrogate pair that is not completed by what comes behind. -/
inductive SpellsHalf (behind : List Char) : List Char → Prop where
  | low {unit : Nat} {s : List Char} (isLow : isLowHalf unit = true) (digits : SpellsUnit unit s) :
      SpellsHalf behind ('\\' :: 'u' :: s)
  | high {unit : Nat} {s : List Char} (isHigh : isHighHalf unit = true) (digits : SpellsUnit unit s)
      (alone : ∀ low t rest, isLowHalf low = true → SpellsUnit low t → behind ≠ '\\' :: 'u' :: t ++ rest) :
      SpellsHalf behind ('\\' :: 'u' :: s)

/-- What may be written between the quotes of a string. With half of a pair in it, it is no text. -/
inductive SpellsString : Option (List Char) → List Char → Prop where
  | done : SpellsString (some []) []
  | char {c : Char} {text : Option (List Char)} {front s : List Char} (spelt : SpellsChar c front)
      (rest : SpellsString text s) : SpellsString (text.map (c :: ·)) (front ++ s)
  | half {text : Option (List Char)} {front s : List Char} (spelt : SpellsHalf s front)
      (rest : SpellsString text s) : SpellsString none (front ++ s)

variable {unit : Nat} {s : List Char}

theorem scanUnit_spelt (spelt : SpellsUnit unit s) (rest : List Char) : scanUnit (s ++ rest) = some (unit, rest) := by
  obtain ⟨first, second, third, fourth, code⟩ := spelt
  simp only [List.cons_append, List.nil_append, scanUnit, first, second, third, fourth, code]

theorem spelt_of_scanUnit {x rest : List Char} (scanned : scanUnit x = some (unit, rest)) :
    ∃ s, SpellsUnit unit s ∧ x = s ++ rest := by
  unfold scanUnit at scanned
  split at scanned
  · rename_i p q r s _
    split at scanned
    · rename_i first second third fourth
      obtain ⟨code, rfl⟩ := Prod.mk.inj (Option.some.inj scanned)
      exact ⟨[p, q, r, s], .digits first second third fourth code.symm, rfl⟩
    · contradiction
  · contradiction

theorem SpellsUnit.of_scanned (scanned : scanUnit s = some (unit, [])) : SpellsUnit unit s := by
  obtain ⟨s, spelt, rfl⟩ := spelt_of_scanUnit scanned
  rwa [List.append_nil]

theorem no_quote_of_hex {c : Char} {d : Nat} (hex : hexValue? c = some d) : '"' ≠ c := by
  rintro rfl
  have none : hexValue? '"' = none := by decide
  rw [none] at hex
  contradiction

theorem no_quote_of_unit (spelt : SpellsUnit unit s) : '"' ∉ '\\' :: 'u' :: s := by
  obtain ⟨first, second, third, fourth, _⟩ := spelt
  simp [no_quote_of_hex first, no_quote_of_hex second, no_quote_of_hex third, no_quote_of_hex fourth]

theorem front_of_unquoted {p rest s tail : List Char} (unquoted : '"' ∉ p)
    (same : s ++ '"' :: tail = p ++ rest) : ∃ m, s = p ++ m := by
  rcases List.append_eq_append_iff.mp same with ⟨m, longer, split⟩ | ⟨m, shorter, _⟩
  · cases m with
    | nil => exact ⟨[], by rw [longer, List.append_nil, List.append_nil]⟩
    | cons c m =>
      rw [List.cons_append, List.cons.injEq] at split
      exact absurd (longer ▸ List.mem_append_right s (split.1 ▸ List.mem_cons_self)) unquoted
  · exact ⟨m, shorter⟩

theorem scanLowHalf_spelt (isLow : isLowHalf unit = true) (spelt : SpellsUnit unit s) (rest : List Char) :
    scanLowHalf ('\\' :: 'u' :: (s ++ rest)) = some (unit, rest) := by
  simp only [scanLowHalf, scanUnit_spelt spelt, isLow, if_true]

theorem scanLowHalf_none
    (alone : ∀ low t rest, isLowHalf low = true → SpellsUnit low t → s ≠ '\\' :: 'u' :: t ++ rest)
    (tail : List Char) : scanLowHalf (s ++ '"' :: tail) = none := by
  unfold scanLowHalf
  split
  · rename_i x same
    split
    · rename_i low rest scanned
      split
      · rename_i isLow
        obtain ⟨t, spelt, rfl⟩ := spelt_of_scanUnit scanned
        obtain ⟨m, front⟩ := front_of_unquoted (no_quote_of_unit spelt) same
        exact absurd front (alone low t m isLow spelt)
      · rfl
    · rfl
  · rfl

theorem not_half (c : Char) : isHighHalf c.toNat = false ∧ isLowHalf c.toNat = false := by
  have valid : c.toNat < 0xd800 ∨ 0xdfff < c.toNat ∧ c.toNat < 0x110000 := c.valid
  simp only [isHighHalf, isLowHalf, Bool.and_eq_false_iff, decide_eq_false_iff_not]
  omega

theorem not_low_of_high (isHigh : isHighHalf unit = true) : isLowHalf unit = false := by
  simp only [isHighHalf, isLowHalf, Bool.and_eq_true, Bool.and_eq_false_iff, decide_eq_true_eq,
    decide_eq_false_iff_not] at isHigh ⊢
  omega

theorem not_high_of_low (isLow : isLowHalf unit = true) : isHighHalf unit = false := by
  cases isHigh : isHighHalf unit with
  | false => rfl
  | true => rw [not_low_of_high isHigh] at isLow; contradiction

theorem scanEscape_letter {l c : Char} (listed : (l, c) ∈ escapeLetters) (rest : List Char) :
    scanEscape (l :: rest) = some (some c, rest) := by
  simp only [escapeLetters, List.mem_cons, Prod.mk.injEq, List.not_mem_nil, or_false] at listed
  rcases listed with ⟨rfl, rfl⟩ | ⟨rfl, rfl⟩ | ⟨rfl, rfl⟩ | ⟨rfl, rfl⟩ | ⟨rfl, rfl⟩ | ⟨rfl, rfl⟩ |
    ⟨rfl, rfl⟩ | ⟨rfl, rfl⟩ <;> rfl

theorem scanString_backslash {x rest : List Char} {c : Option Char} (escaped : scanEscape x = some (c, rest))
    (fuel : Nat) : scanString (fuel + 1) ('\\' :: x) =
      (scanString fuel rest).map fun (text, rest) => (inFront c text, rest) := by
  rw [scanString, if_neg (by decide), if_pos rfl]
  simp only [escaped]

theorem scanString_char {c : Char} {front : List Char} (spelt : SpellsChar c front) (fuel : Nat)
    (rest : List Char) : scanString (fuel + 1) (front ++ rest) =
      (scanString fuel rest).map fun (text, rest) => (text.map (c :: ·), rest) := by
  have inFront_eq : inFront (some c) = Option.map (c :: ·) := by
    funext text
    cases text <;> rfl
  rw [← inFront_eq]
  cases spelt with
  | plain noQuote noBackslash noControl =>
    rw [List.singleton_append, scanString, if_neg noQuote, if_neg noBackslash, if_neg (by omega)]
  | letter listed => exact scanString_backslash (scanEscape_letter listed rest) fuel
  | unit digits =>
    apply scanString_backslash
    obtain ⟨noHigh, noLow⟩ := not_half c
    change scanCodePoint (_ ++ rest) = _
    simp only [scanCodePoint, scanUnit_spelt digits, noHigh, noLow, Char.ofNat_toNat]
    rfl
  | @pair high low s t isHigh isLow first second code =>
    apply scanString_backslash
    change scanCodePoint ((s ++ '\\' :: 'u' :: t) ++ rest) = _
    have following := scanLowHalf_spelt isLow second rest
    have paired : Char.ofNat (0x10000 + (high - 0xd800) * 0x400 + (low - 0xdc00)) = c := by
      rw [← code, Char.ofNat_toNat]
    rw [List.append_assoc]
    simp only [scanCodePoint, scanUnit_spelt first, isHigh, List.cons_append, following, paired, if_true]

theorem scanString_half {front behind : List Char} (spelt : SpellsHalf behind front) (fuel : Nat)
    (tail : List Char) : scanString (fuel + 1) (front ++ (behind ++ '"' :: tail)) =
      (scanString fuel (behind ++ '"' :: tail)).map fun (_, rest) => (none, rest) := by
  cases spelt with
  | low isLow digits =>
    apply scanString_backslash (c := none)
    change scanCodePoint (_ ++ _) = _
    simp only [scanCodePoint, scanUnit_spelt digits, not_high_of_low isLow, isLow, if_true]
    rfl
  | high isHigh digits alone =>
    apply scanString_backslash (c := none)
    change scanCodePoint (_ ++ _) = _
    simp only [scanCodePoint, scanUnit_spelt digits, isHigh, scanLowHalf_none alone, if_true]

theorem SpellsChar.length_pos {c : Char} {front : List Char} (spelt : SpellsChar c front) : 0 < front.length := by
  cases spelt <;> exact Nat.succ_pos _

theorem SpellsHalf.length_pos {behind front : List Char} (spelt : SpellsHalf behind front) : 0 < front.length := by
  cases spelt <;> exact Nat.succ_pos _

theorem scanString_spelt {text : Option (List Char)} (spelt : SpellsString text s) {fuel : Nat}
    (enough : s.length < fuel) (rest : List Char) : scanString fuel (s ++ '"' :: rest) = some (text, rest) := by
  induction spelt generalizing fuel with
  | done =>
    obtain ⟨fuel, rfl⟩ := Nat.exists_eq_add_one_of_ne_zero (Nat.ne_zero_of_lt enough)
    rfl
  | char spelt _ ih =>
    obtain ⟨fuel, rfl⟩ := Nat.exists_eq_add_one_of_ne_zero (Nat.ne_zero_of_lt enough)
    have shorter := spelt.length_pos
    rw [List.length_append] at enough
    rw [List.append_assoc, scanString_char spelt, ih (by omega), Option.map_some]
  | half spelt _ ih =>
    obtain ⟨fuel, rfl⟩ := Nat.exists_eq_add_one_of_ne_zero (Nat.ne_zero_of_lt enough)
    have shorter := spelt.length_pos
    rw [List.length_append] at enough
    rw [List.append_assoc, scanString_half spelt, ih (by omega), Option.map_some]

theorem hexValue_digitChar : ∀ d < 16, hexValue? (Nat.digitChar d) = some d := by decide

theorem escape_spelt (c : Char) : SpellsChar c (escape c) := by
  unfold escape
  -- seven characters have an escape of their own; then come the other control characters and all the rest
  iterate 7
    split
    · subst c
      exact .letter (by decide)
  split
  · rename_i control
    have zero : hexValue? '0' = some 0 := by decide
    have high := hexValue_digitChar (c.toNat / 16) (by omega)
    have low := hexValue_digitChar (c.toNat % 16) (by omega)
    exact .unit (.digits zero zero high low (by omega))
  · rename_i quote backslash _ _ _ _ _ plain
    exact .plain quote backslash (by omega)

theorem escaped_spelt (text : List Char) : SpellsString (some text) (text.flatMap escape) := by
  induction text with
  | nil => exact .done
  | cons c text ih => exact .char (escape_spelt c) ih

theorem loneHalf_spelt : SpellsString none loneHalf := by
  have first : hexValue? 'd' = some 13 := by decide
  have second : hexValue? '8' = some 8 := by decide
  have zero : hexValue? '0' = some 0 := by decide
  have digits : SpellsUnit 0xd800 ['d', '8', '0', '0'] := .digits first second zero zero (by decide)
  have half : SpellsHalf [] loneHalf := .high (by decide) digits fun _ _ _ _ _ => by simp
  exact .half half .done

end Strings

def EndsNumber (rest : List Char) : Prop :=
  ∀ c ∈ rest.head?, c.isDigit = false ∧ c ≠ '.' ∧ c ≠ 'e' ∧ c ≠ 'E'

structure DigitRun (digits : List Char) : Prop where
  written : digits ≠ []
  all : ∀ c ∈ digits, c.isDigit = true

namespace Number

structure Literal (number : Number) : Prop where
  whole : number.whole = ['0'] ∨
    (number.whole ≠ [] ∧ number.whole.head? ≠ some '0' ∧ ∀ c ∈ number.whole, c.isDigit = true)
  fraction : ∀ c ∈ number.fraction, c.isDigit = true

def fractionChars (number : Number) : List Char :=
  if number.fraction.isEmpty then [] else '.' :: number.fraction

def exponentChars (number : Number) : List Char :=
  match number.exponent with
  | none => []
  | some (.ofNat power) => 'e' :: Nat.toDigits 10 power
  | some (.negSucc less) => 'e' :: '-' :: Nat.toDigits 10 (less + 1)

theorem ofNat_literal (n : Nat) : (ofNat n).Literal where
  whole := by
    rcases Nat.eq_zero_or_pos n with rfl | positive
    · exact Or.inl rfl
    · exact Or.inr ⟨Nat.toDigits_ne_nil, Digits.head_toDigits positive, fun _ => Digits.isDigit_of_mem⟩
  fraction := by simp [ofNat]

end Number

section Numbers

inductive SpellsExponent : Option Int → List Char → Prop where
  | absent : SpellsExponent none []
  | unsigned {mark : Char} {digits : List Char} (marked : mark = 'e' ∨ mark = 'E') (run : DigitRun digits) :
      SpellsExponent (some (Nat.ofDigitChars 10 digits 0 : Int)) (mark :: digits)
  | plus {mark : Char} {digits : List Char} (marked : mark = 'e' ∨ mark = 'E') (run : DigitRun digits) :
      SpellsExponent (some (Nat.ofDigitChars 10 digits 0 : Int)) (mark :: '+' :: digits)
  | minus {mark : Char} {digits : List Char} (marked : mark = 'e' ∨ mark = 'E') (run : DigitRun digits) :
      SpellsExponent (some (-(Nat.ofDigitChars 10 digits 0 : Int))) (mark :: '-' :: digits)

inductive SpellsNumber (number : Number) : List Char → Prop where
  | spelt {s : List Char} (literal : number.Literal) (exponent : SpellsExponent number.exponent s) :
      SpellsNumber number
        ((if number.negative then ['-'] else []) ++ (number.whole ++ (number.fractionChars ++ s)))

variable {digits rest s : List Char} {power : Option Int} {number : Number}

theorem toDigits_run (n : Nat) : DigitRun (Nat.toDigits 10 n) :=
  ⟨Nat.toDigits_ne_nil, fun _ => Digits.isDigit_of_mem⟩

theorem isDigit_front {c : Char} {s : List Char} (run : DigitRun digits) (same : digits ++ rest = c :: s) :
    c.isDigit = true := by
  obtain ⟨d, others, rfl⟩ := List.exists_cons_of_ne_nil run.written
  rw [List.cons_append, List.cons.injEq] at same
  exact run.all c (by simp [same.1])

theorem scanDigits_run (run : DigitRun digits) (ended : ∀ c ∈ rest.head?, c.isDigit = false) :
    scanDigits (digits ++ rest) = some (digits, rest) := by
  simp [scanDigits, Chars.takeWhile_run run.all ended, Chars.dropWhile_run run.all ended, run.written]

theorem scanWhole_literal (literal : number.Literal) (ended : ∀ c ∈ rest.head?, c.isDigit = false) :
    scanWhole (number.whole ++ rest) = some (number.whole, rest) := by
  rcases literal.whole with zero | ⟨written, front, all⟩
  · rw [zero]
    rfl
  · unfold scanWhole
    split
    · rename_i s same
      have first := congrArg List.head? same
      rw [List.head?_append_of_ne_nil _ written] at first
      exact absurd first front
    · exact scanDigits_run ⟨written, all⟩ ended

theorem scanFraction_literal (literal : number.Literal)
    (ended : ∀ c ∈ rest.head?, c.isDigit = false ∧ c ≠ '.') :
    scanFraction (number.fractionChars ++ rest) = some (number.fraction, rest) := by
  unfold Number.fractionChars
  cases digits : number.fraction with
  | nil =>
    rw [List.isEmpty_nil, if_pos rfl, List.nil_append]
    unfold scanFraction
    split
    · exact absurd rfl (ended '.' rfl).2
    · rfl
  | cons c others =>
    exact scanDigits_run ⟨List.cons_ne_nil c others, digits ▸ literal.fraction⟩ fun c front => (ended c front).1

theorem scanPower_unsigned (run : DigitRun digits) (ended : ∀ c ∈ rest.head?, c.isDigit = false) :
    scanPower (digits ++ rest) = some ((Nat.ofDigitChars 10 digits 0 : Int), rest) := by
  have front := fun c s => @isDigit_front _ rest c s run
  unfold scanPower
  split
  · rename_i s same
    exact absurd (front '-' s same) (by decide)
  · rename_i s same
    exact absurd (front '+' s same) (by decide)
  · rw [scanDigits_run run ended, Option.map_some]

theorem scanExponent_marked {mark : Char} (marked : mark = 'e' ∨ mark = 'E') (s : List Char) :
    scanExponent (mark :: s) = (scanPower s).map fun (power, rest) => (some power, rest) := by
  rcases marked with rfl | rfl <;> rfl

theorem scanExponent_spelt (spelt : SpellsExponent power s) (ended : EndsNumber rest) :
    scanExponent (s ++ rest) = some (power, rest) := by
  have noDigit : ∀ c ∈ rest.head?, c.isDigit = false := fun c front => (ended c front).1
  cases spelt with
  | absent =>
    cases rest with
    | nil => rfl
    | cons c rest =>
      obtain ⟨_, _, small, capital⟩ := ended c rfl
      simp [scanExponent, small, capital]
  | unsigned marked run =>
    rw [List.cons_append, scanExponent_marked marked, scanPower_unsigned run noDigit, Option.map_some]
  | plus marked run =>
    rw [List.cons_append, scanExponent_marked marked, List.cons_append, scanPower, scanDigits_run run noDigit]
    rfl
  | minus marked run =>
    rw [List.cons_append, scanExponent_marked marked, List.cons_append, scanPower, scanDigits_run run noDigit]
    rfl

theorem marked_ends {mark : Char} (marked : mark = 'e' ∨ mark = 'E') (s : List Char) :
    ∀ c ∈ (mark :: s).head?, c.isDigit = false ∧ c ≠ '.' := by
  rintro c front
  rw [← Option.mem_some_iff.mp front]
  rcases marked with rfl | rfl <;> decide

/-- Where one part of a number ends another one starts, or the number ends. -/
theorem exponent_ends (spelt : SpellsExponent power s) (ended : EndsNumber rest) :
    ∀ c ∈ (s ++ rest).head?, c.isDigit = false ∧ c ≠ '.' := by
  cases spelt with
  | absent =>
    intro c front
    obtain ⟨noDigit, noPoint, _⟩ := ended c front
    exact ⟨noDigit, noPoint⟩
  | unsigned marked _ => exact marked_ends marked _
  | plus marked _ => exact marked_ends marked _
  | minus marked _ => exact marked_ends marked _

theorem fraction_ends (spelt : SpellsExponent power s) (ended : EndsNumber rest) :
    ∀ c ∈ (number.fractionChars ++ (s ++ rest)).head?, c.isDigit = false := by
  unfold Number.fractionChars
  split
  · intro c front
    exact (exponent_ends spelt ended c front).1
  · simp +decide

theorem scanUnsigned_spelt (literal : number.Literal) (spelt : SpellsExponent number.exponent s)
    (ended : EndsNumber rest) : scanUnsigned number.negative (number.whole ++ (number.fractionChars ++ (s ++ rest))) =
      some (number, rest) := by
  simp [scanUnsigned, scanWhole_literal literal (fraction_ends spelt ended),
    scanFraction_literal literal (exponent_ends spelt ended), scanExponent_spelt spelt ended]

theorem whole_front (literal : number.Literal) : ∃ c s, number.whole = c :: s ∧ c.isDigit = true := by
  rcases literal.whole with zero | ⟨written, _, all⟩
  · exact ⟨'0', [], zero, by decide⟩
  · obtain ⟨c, digits, whole⟩ := List.exists_cons_of_ne_nil written
    exact ⟨c, digits, whole, all c (by simp [whole])⟩

theorem scanNumber_spelt (spelt : SpellsNumber number s) (ended : EndsNumber rest) :
    scanNumber (s ++ rest) = some (number, rest) := by
  obtain ⟨literal, exponent⟩ := spelt
  have unsigned := scanUnsigned_spelt literal exponent ended
  cases sign : number.negative with
  | true =>
    rw [sign] at unsigned
    simpa [scanNumber] using unsigned
  | false =>
    obtain ⟨c, s, front, digit⟩ := whole_front literal
    rw [sign, front] at unsigned
    rw [if_neg (by decide), List.nil_append, front, List.append_assoc, List.append_assoc]
    unfold scanNumber
    split
    · rename_i same
      rw [List.cons_append, List.cons.injEq] at same
      rw [same.1] at digit
      exact absurd digit (by decide)
    · exact unsigned

theorem number_front (spelt : SpellsNumber number s) : ∃ c rest, s = c :: rest ∧ (c = '-' ∨ c.isDigit = true) := by
  obtain ⟨literal, exponent⟩ := spelt
  obtain ⟨c, digits, front, digit⟩ := whole_front literal
  rw [front]
  split
  · exact ⟨'-', _, rfl, Or.inl rfl⟩
  · exact ⟨c, _, rfl, Or.inr digit⟩

theorem exponentChars_spelt (number : Number) : SpellsExponent number.exponent number.exponentChars := by
  unfold Number.exponentChars
  cases number.exponent with
  | none => exact .absent
  | some power =>
    cases power with
    | ofNat power =>
      have spelt := SpellsExponent.unsigned (Or.inl rfl : 'e' = 'e' ∨ 'e' = 'E') (toDigits_run power)
      rwa [Digits.ofDigitChars_toDigits] at spelt
    | negSucc less =>
      have spelt := SpellsExponent.minus (Or.inl rfl : 'e' = 'e' ∨ 'e' = 'E') (toDigits_run (less + 1))
      rwa [Digits.ofDigitChars_toDigits] at spelt

theorem number_spelt (literal : number.Literal) : SpellsNumber number number.chars := by
  have spelt := SpellsNumber.spelt literal (exponentChars_spelt number)
  rw [← List.append_assoc, ← List.append_assoc] at spelt
  exact spelt

end Numbers

end Json
end BookSearch
