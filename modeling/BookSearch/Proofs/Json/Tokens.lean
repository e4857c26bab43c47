import BookSearch.Proofs.Json.Spellings

/-!
Scanning the tokens of a JSON text. A token is found in whatever way it is spelt and however the blanks are laid
out around it; the only thing to keep apart is a number from what could be more of it.
-/
namespace BookSearch
namespace Json

namespace Token

/-- Only a number has forms that cannot be written. -/
def Legible (token : Token) : Prop := ∀ value, token = number value → value.Literal

/-- Only a number can go on into what stands after it. -/
def Apart (token : Token) (rest : List Char) : Prop := ∀ value, token = number value → EndsNumber rest

inductive Spelt : Token → List Char → Prop where
  | string {text : Option (List Char)} {s : List Char} (spelt : SpellsString text s) :
      Spelt (string text) ('"' :: (s ++ ['"']))
  | number {value : Number} {s : List Char} (spelt : SpellsNumber value s) : Spelt (number value) s
  | mark {token : Token} (noString : ∀ text, token ≠ string text) (noNumber : ∀ value, token ≠ number value) :
      Spelt token token.chars

/-- The text spells the tokens in turn, with blanks anywhere between them. How a single token may be spelt
is left open. -/
inductive Layout (spells : Token → List Char → Prop) : List Token → List Char → Prop where
  | done : Layout spells [] []
  | blank {tokens : List Token} {c : Char} {s : List Char} (space : isSpace c = true)
      (rest : Layout spells tokens s) : Layout spells tokens (c :: s)
  | token {token : Token} {tokens : List Token} {front s : List Char} (spelt : spells token front)
      (apart : token.Apart s) (rest : Layout spells tokens s) : Layout spells (token :: tokens) (front ++ s)

abbrev Written : List Token → List Char → Prop :=
  Layout fun token s => s = token.chars ∧ token.Legible

theorem Layout.mark {spells : Token → List Char → Prop} {token : Token}
    (noNumber : ∀ value, token ≠ number value) {front : List Char} (spelt : spells token front)
    {tokens : List Token} {s : List Char} (rest : Layout spells tokens s) :
    Layout spells (token :: tokens) (front ++ s) :=
  .token spelt (fun value same => absurd same (noNumber value)) rest

theorem Layout.symbol {tokens : List Token} {s : List Char} (token : Token)
    (other : (∀ text, token ≠ string text) ∧ ∀ value, token ≠ number value) (rest : Layout Spelt tokens s) :
    Layout Spelt (token :: tokens) (token.chars ++ s) :=
  .mark other.2 (.mark other.1 other.2) rest

theorem Layout.quoted {text : Option (List Char)} {spelling : List Char} (spelt : SpellsString text spelling)
    {tokens : List Token} {s : List Char} (rest : Layout Spelt tokens s) :
    Layout Spelt (string text :: tokens) ('"' :: (spelling ++ ['"']) ++ s) :=
  .mark (fun _ => Token.noConfusion) (.string spelt) rest

structure ScannedFrom (token : Token) (s : List Char) : Prop where
  dark : ∃ c rest, s = c :: rest ∧ isSpace c = false
  scans : ∀ {fuel : Nat} {rest : List Char}, s.length ≤ fuel → token.Apart rest →
    scan fuel (s ++ rest) = some (token, rest)

theorem scan_number {c : Char} (front : c = '-' ∨ c.isDigit = true) (fuel : Nat) (s : List Char) :
    scan fuel (c :: s) = (scanNumber (c :: s)).map fun (value, rest) => (number value, rest) := by
  unfold scan
  split
  case h_11 => rfl
  -- the first characters of all other tokens are no digits
  all_goals
    rename_i same
    obtain ⟨rfl, _⟩ := List.cons.inj same
    exact absurd front (by decide)

theorem dark_of_front {c : Char} (front : c = '-' ∨ c.isDigit = true) : isSpace c = false := by
  by_contra space
  simp only [isSpace, Bool.not_eq_false, Bool.or_eq_true, decide_eq_true_eq] at space
  rcases space with ((rfl | rfl) | rfl) | rfl <;> exact absurd front (by decide)

theorem spelt_scanned {token : Token} {s : List Char} (spelt : token.Spelt s) : token.ScannedFrom s := by
  cases spelt with
  | @string text s spelt =>
    refine ⟨⟨'"', _, rfl, by decide⟩, ?_⟩
    intro fuel rest enough _
    rw [List.length_cons, List.length_append] at enough
    have scanned := scanString_spelt spelt (Nat.lt_of_lt_of_le (Nat.lt_succ_of_le (Nat.le_add_right _ _)) enough) rest
    simp [scan, scanned]
  | @number value s spelt =>
    obtain ⟨c, others, rfl, front⟩ := number_front spelt
    refine ⟨⟨c, others, rfl, dark_of_front front⟩, ?_⟩
    intro fuel rest _ apart
    have scanned := scanNumber_spelt spelt (apart value rfl)
    rw [List.cons_append] at scanned ⊢
    rw [scan_number front, scanned, Option.map_some]
  | mark noString noNumber =>
    cases token with
    | string text => exact absurd rfl (noString text)
    | number value => exact absurd rfl (noNumber value)
    | bool value => cases value with
      | _ => exact ⟨⟨_, _, rfl, by decide⟩, fun _ _ => rfl⟩
    | _ => exact ⟨⟨_, _, rfl, by decide⟩, fun _ _ => rfl⟩

theorem chars_spelt {token : Token} (legible : token.Legible) : token.Spelt token.chars := by
  cases token with
  | string text => cases text with
    | none => exact .string loneHalf_spelt
    | some text => exact .string (escaped_spelt text)
  | number value => exact .number (number_spelt (legible value rfl))
  | _ => exact .mark (fun _ => Token.noConfusion) (fun _ => Token.noConfusion)

theorem scanAll_layout {tokens : List Token} {s : List Char} (layout : Layout Spelt tokens s) {fuel : Nat}
    (enough : s.length < fuel) : scanAll fuel s = some tokens := by
  induction layout generalizing fuel with
  | done => cases fuel <;> rfl
  | @blank tokens c s space _ ih =>
    obtain ⟨fuel, rfl⟩ := Nat.exists_eq_add_one_of_ne_zero (Nat.ne_zero_of_lt enough)
    rw [scanAll, if_pos space]
    exact ih (by simpa using enough)
  | @token token tokens front s spelt apart _ ih =>
    obtain ⟨fuel, rfl⟩ := Nat.exists_eq_add_one_of_ne_zero (Nat.ne_zero_of_lt enough)
    obtain ⟨⟨c, others, rfl, dark⟩, scans⟩ := spelt_scanned spelt
    rw [List.length_append, List.length_cons] at enough
    have first := @scans fuel s (by rw [List.length_cons]; omega) apart
    rw [List.cons_append] at first ⊢
    rw [scanAll, if_neg (by simp [dark]), first]
    simp only
    rw [ih (by omega), Option.map_some]

/-- A text is cut into the tokens that it was laid out from. -/
theorem ofChars?_layout {tokens : List Token} {s : List Char} (layout : Layout Spelt tokens s) :
    ofChars? s = some tokens :=
  scanAll_layout layout (Nat.lt_succ_self _)

theorem Layout.mono {spells other : Token → List Char → Prop}
    (wider : ∀ {token s}, spells token s → other token s) {tokens : List Token} {s : List Char}
    (layout : Layout spells tokens s) : Layout other tokens s := by
  induction layout with
  | done => exact .done
  | blank space _ ih => exact .blank space ih
  | token spelt apart _ ih => exact .token (wider spelt) apart ih

theorem Written.spelt {tokens : List Token} {s : List Char} (written : Written tokens s) :
    Layout Spelt tokens s :=
  written.mono fun spelt => by rw [spelt.1]; exact chars_spelt spelt.2

end Token
end Json
end BookSearch
