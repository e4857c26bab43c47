import BookSearch.Proofs.Text.Runs
import BookSearch.Text.Quoted

/-!
Quoted text tells what was quoted and where it ends, whatever comes after it: every escape can be told from
every other by its own characters, and none begins with the quote that closes the text.
-/
namespace BookSearch
namespace Chars

/-- In front of any rest, what is written for a value tells the value and where the rest begins. -/
def SelfDelimiting {α : Type} (written : α → List Char) : Prop :=
  ∀ (a b : α) (r s : List Char), written a ++ r = written b ++ s → a = b ∧ r = s

theorem digitChar_inj : ∀ d < 16, ∀ e < 16, Nat.digitChar d = Nat.digitChar e → d = e := by
  decide

theorem closing_not_mem_hex (n : Nat) : '\x7d' ∉ Nat.toDigits 16 n := by
  induction n using Nat.strongRecOn with
  | ind n ih =>
    have apart (d : Nat) : '\x7d' ≠ Nat.digitChar d := (Nat.digitChar_ne '\x7d' (by decide)).symm
    rw [Nat.toDigits_eq_if (by decide)]
    split
    · simp [apart]
    · rename_i more
      have front := ih (n / 16) (by omega)
      simp [apart, front]

theorem hex_inj {m n : Nat} (same : Nat.toDigits 16 m = Nat.toDigits 16 n) : m = n := by
  induction m using Nat.strongRecOn generalizing n with
  | ind m ih =>
    rw [Nat.toDigits_eq_if (by decide), Nat.toDigits_eq_if (n := n) (by decide)] at same
    split at same
    · split at same
      · exact digitChar_inj m ‹_› n ‹_› (List.singleton_inj.mp same)
      · exact absurd (congrArg List.length same) (by simp)
    · split at same
      · exact absurd (congrArg List.length same) (by simp)
      · obtain ⟨front, last⟩ := List.append_singleton_inj.mp same
        have quotients := ih (m / 16) (by omega) front
        have remainders := digitChar_inj (m % 16) (by omega) (n % 16) (by omega) last
        omega

theorem hex_selfDelimiting : SelfDelimiting fun n => Nat.toDigits 16 n ++ ['\x7d'] := by
  intro m n r s same
  simp only [List.append_assoc, List.singleton_append] at same
  obtain ⟨digits, rest⟩ := first_split_unique (closing_not_mem_hex m) (closing_not_mem_hex n) same
  exact ⟨hex_inj digits, rest⟩

def shortEscapes : List (Char × Char) :=
  [('"', '"'), ('\\', '\\'), ('\x00', '0'), ('\t', 't'), ('\n', 'n'), ('\r', 'r')]

theorem shortEscapes_inj : ∀ one ∈ shortEscapes, ∀ other ∈ shortEscapes, one.2 = other.2 → one.1 = other.1 := by
  decide

theorem shortEscapes_apart : ∀ one ∈ shortEscapes, one.2 ≠ 'u' := by
  decide

inductive EscapedAs : Char → List Char → Prop where
  | short {c letter : Char} (listed : (c, letter) ∈ shortEscapes) : EscapedAs c ['\\', letter]
  | code (c : Char) : EscapedAs c ('\\' :: 'u' :: '\x7b' :: Nat.toDigits 16 c.toNat ++ ['\x7d'])
  | plain {c : Char} (noQuote : c ≠ '"') (noBackslash : c ≠ '\\') : EscapedAs c [c]

theorem escapedAs_escape (c : Char) : EscapedAs c (escape c) := by
  unfold escape
  iterate 6
    split
    · subst c
      exact .short (by decide)
  split
  · exact .code c
  · exact .plain ‹_› ‹_›

theorem EscapedAs.ne_quote {c : Char} {text : List Char} (escaped : EscapedAs c text) (r s : List Char) :
    text ++ r ≠ '"' :: s := by
  cases escaped with
  | short listed => simp
  | code => simp
  | plain noQuote _ => simp [noQuote]

theorem escape_selfDelimiting : SelfDelimiting escape := by
  intro c d r s same
  have first := escapedAs_escape c
  have second := escapedAs_escape d
  generalize escape c = left at first same
  generalize escape d = right at second same
  cases first with
  | short listed =>
    cases second with
    | short listed' =>
      simp only [List.cons_append, List.nil_append, List.cons.injEq, true_and] at same
      exact ⟨shortEscapes_inj _ listed _ listed' same.1, same.2⟩
    | code =>
      simp only [List.cons_append, List.nil_append, List.cons.injEq, true_and] at same
      exact absurd same.1 (shortEscapes_apart _ listed)
    | plain _ noBackslash =>
      simp only [List.cons_append, List.nil_append, List.cons.injEq] at same
      exact absurd same.1.symm noBackslash
  | code =>
    cases second with
    | short listed' =>
      simp only [List.cons_append, List.nil_append, List.cons.injEq, true_and] at same
      exact absurd same.1.symm (shortEscapes_apart _ listed')
    | code =>
      simp only [List.cons_append, List.cons.injEq, true_and] at same
      obtain ⟨codes, rest⟩ := hex_selfDelimiting c.toNat d.toNat r s same
      exact ⟨Char.toNat_inj.mp codes, rest⟩
    | plain _ noBackslash =>
      simp only [List.cons_append, List.nil_append, List.cons.injEq] at same
      exact absurd same.1.symm noBackslash
  | plain _ noBackslash =>
    cases second with
    | short =>
      simp only [List.cons_append, List.nil_append, List.cons.injEq] at same
      exact absurd same.1 noBackslash
    | code =>
      simp only [List.cons_append, List.nil_append, List.cons.injEq] at same
      exact absurd same.1 noBackslash
    | plain =>
      simpa using same

theorem quote_selfDelimiting : SelfDelimiting quote := by
  intro one
  induction one with
  | nil =>
    intro other r s same
    cases other with
    | nil => simpa [quote] using same
    | cons d rest =>
      have opened : '"' :: r = escape d ++ (rest.flatMap escape ++ '"' :: s) := by simpa [quote] using same
      exact absurd opened.symm ((escapedAs_escape d).ne_quote _ _)
  | cons c rest ih =>
    intro other r s same
    cases other with
    | nil =>
      have opened : escape c ++ (rest.flatMap escape ++ '"' :: r) = '"' :: s := by simpa [quote] using same
      exact absurd opened ((escapedAs_escape c).ne_quote _ _)
    | cons d others =>
      have opened : escape c ++ (rest.flatMap escape ++ '"' :: r) =
          escape d ++ (others.flatMap escape ++ '"' :: s) := by simpa [quote] using same
      obtain ⟨here, later⟩ := escape_selfDelimiting _ _ _ _ opened
      obtain ⟨following, rests⟩ := ih others r s (by simpa [quote] using later)
      exact ⟨by rw [here, following], rests⟩

end Chars
end BookSearch
