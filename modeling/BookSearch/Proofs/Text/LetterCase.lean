import BookSearch.Proofs.Text.LowercaseInContext

/-!
The case of ASCII letters and the lowercase of a text. A capital and its small letter are told apart by
nothing that lowercasing looks at, neither by their own lowercase nor by what they are to a Σ nearby.
-/
namespace BookSearch
namespace Chars

/-- What lowercasing a text sees of a character, in its own place and as a neighbour. -/
structure SameCasing (c d : Char) : Prop where
  lowered : lowerChar c = lowerChar d
  cased : isCased c = isCased d
  ignorable : isCaseIgnorable c = isCaseIgnorable d
  sigma : c = 'Σ' ↔ d = 'Σ'

instance (c d : Char) : Decidable (SameCasing c d) :=
  decidable_of_iff (lowerChar c = lowerChar d ∧ isCased c = isCased d ∧
    isCaseIgnorable c = isCaseIgnorable d ∧ (c = 'Σ' ↔ d = 'Σ'))
    ⟨fun ⟨lowered, cased, ignorable, sigma⟩ => ⟨lowered, cased, ignorable, sigma⟩,
      fun ⟨lowered, cased, ignorable, sigma⟩ => ⟨lowered, cased, ignorable, sigma⟩⟩

theorem capital_place {c : Char} (capital : 'A' ≤ c ∧ c ≤ 'Z') : ∃ place < 26, c = Char.ofNat (65 + place) := by
  have bounds : 65 ≤ c.toNat ∧ c.toNat ≤ 90 := capital
  refine ⟨c.toNat - 65, by omega, ?_⟩
  rw [Nat.add_sub_cancel' bounds.1, Char.ofNat_toNat]

theorem capitals_cased_alike :
    ∀ place < 26, SameCasing (Char.ofNat (65 + place)).toLower (Char.ofNat (65 + place)) := by
  decide +kernel

theorem toLower_cased_alike (c : Char) : SameCasing c.toLower c := by
  by_cases capital : 'A' ≤ c ∧ c ≤ 'Z'
  · obtain ⟨place, listed, rfl⟩ := capital_place capital
    exact capitals_cased_alike place listed
  · have same : c.toLower = c := by
      unfold Char.toLower
      exact dif_neg capital
    rw [same]
    exact ⟨rfl, rfl, rfl, Iff.rfl⟩

theorem startsCased_toLower (s : List Char) : startsCased (s.map Char.toLower) = startsCased s := by
  induction s with
  | nil => rfl
  | cons c rest ih =>
    have alike := toLower_cased_alike c
    cases ignorable : isCaseIgnorable c with
    | true =>
      have hidden : isCaseIgnorable c.toLower = true := alike.ignorable.trans ignorable
      simpa [startsCased, ignorable, hidden] using ih
    | false =>
      have seen : isCaseIgnorable c.toLower = false := alike.ignorable.trans ignorable
      simp [startsCased, ignorable, seen, alike.cased]

theorem lowerAfter_toLower (before s : List Char) :
    lowerAfter (before.map Char.toLower) (s.map Char.toLower) = lowerAfter before s := by
  induction s generalizing before with
  | nil => rfl
  | cons c rest ih =>
    have alike := toLower_cased_alike c
    have later := ih (c :: before)
    rw [List.map_cons] at later
    rw [List.map_cons, lowerAfter, lowerAfter, later]
    by_cases sigma : c = 'Σ'
    · rw [if_pos sigma, if_pos (alike.sigma.mpr sigma), endsWord, endsWord, startsCased_toLower,
        startsCased_toLower]
    · rw [if_neg sigma, if_neg (mt alike.sigma.mp sigma), alike.lowered]

theorem lower_toLower (s : List Char) : lower (s.map Char.toLower) = lower s := lowerAfter_toLower [] s

end Chars

namespace Text

/-- The same text but for the case of ASCII letters, the only letters that `Char.toLower` changes. -/
def SameButCase (s t : String) : Prop := s.toList.map Char.toLower = t.toList.map Char.toLower

theorem SameButCase.lower_eq {s t : String} (same : SameButCase s t) : lower s = lower t := by
  have small : Chars.lower s.toList = Chars.lower t.toList := by
    rw [← Chars.lower_toLower, same, Chars.lower_toLower]
  rw [lower, lower, small]

end Text
end BookSearch
