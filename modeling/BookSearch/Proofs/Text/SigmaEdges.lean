import BookSearch.Proofs.Text.LowercaseInContext

/-!
When a piece of a longer text is lowercased as it would be on its own. The only letters for which the two
can differ are the first and the last Σ of the piece, and only if nothing but skipped characters separates
them from its edge.
-/
namespace BookSearch
namespace Chars

/-- What stands in front makes the first Σ the last letter of a word, which it is not in the piece alone. -/
def ClosesAtFront (before s after : List Char) : Prop :=
  startsCased before = true ∧ ∃ skipped rest, s = skipped ++ 'Σ' :: rest ∧
    skipped.all isCaseIgnorable = true ∧ startsCased (rest ++ after) = false

/-- The last Σ ends a word in the piece alone, and what follows the piece goes on with the word. -/
def OpensAtBack (s after : List Char) : Prop :=
  startsCased after = true ∧ ∃ front skipped, s = front ++ 'Σ' :: skipped ∧
    skipped.all isCaseIgnorable = true ∧ startsCased front.reverse = true

/-- There are surroundings in which a Σ of the piece is lowercased otherwise than in the piece alone. -/
def SigmaAtEdge (s : List Char) : Prop :=
  (∃ skipped rest, s = skipped ++ 'Σ' :: rest ∧ skipped.all isCaseIgnorable = true ∧
      startsCased rest = false) ∨
    ∃ front skipped, s = front ++ 'Σ' :: skipped ∧ skipped.all isCaseIgnorable = true ∧
      startsCased front.reverse = true

theorem startsCased_cons_skips {c : Char} (ignorable : isCaseIgnorable c = true) (s : List Char) :
    startsCased (c :: s) = startsCased s :=
  startsCased_skips (s := [c]) (by simpa using ignorable) s

theorem startsCased_cons_stops {c : Char} (seen : isCaseIgnorable c = false) (s : List Char) :
    startsCased (c :: s) = startsCased [c] :=
  startsCased_stops (s := [c]) (by simpa using seen) s

theorem startsCased_append_left {s : List Char} (cased : startsCased s = true) (t : List Char) :
    startsCased (s ++ t) = true := by
  cases all : s.all isCaseIgnorable with
  | true =>
    have hidden := startsCased_skips all []
    rw [List.append_nil, cased] at hidden
    exact absurd hidden (by decide)
  | false => rw [startsCased_stops all, cased]

theorem sigma_not_ignorable : isCaseIgnorable 'Σ' = false := by decide +kernel

theorem startsCased_sigma (s : List Char) : startsCased ('Σ' :: s) = true := by
  rw [startsCased_cons_stops sigma_not_ignorable]
  decide +kernel

theorem sigma_not_mem_skipped {s : List Char} (skipped : s.all isCaseIgnorable = true) : 'Σ' ∉ s := by
  intro member
  have ignorable := List.all_eq_true.mp skipped 'Σ' member
  rw [sigma_not_ignorable] at ignorable
  contradiction

theorem lowerAt_sigma_congr {before before' after after' : List Char}
    (same : endsWord before after = endsWord before' after') (c : Char) :
    lowerAt before c after = lowerAt before' c after' := by
  rw [lowerAt, lowerAt, same]

theorem endsWord_of_cased_after {before after : List Char} (cased : startsCased after = true) :
    endsWord before after = false := by
  simp [endsWord, cased]

theorem endsWord_of_uncased_before {before after : List Char} (uncased : startsCased before = false) :
    endsWord before after = false := by
  simp [endsWord, uncased]

theorem lowerAt_other {c : Char} (other : c ≠ 'Σ') (before before' after after' : List Char) :
    lowerAt before c after = lowerAt before' c after' := by
  rw [lowerAt, lowerAt, if_neg other, if_neg other]

theorem lowerAt_front {before before' rest after : List Char} {c : Char} (plain : startsCased before' = false)
    (kept : ¬ ClosesAtFront before (c :: rest) after) :
    lowerAt before c (rest ++ after) = lowerAt before' c (rest ++ after) := by
  by_cases sigma : c = 'Σ'
  · subst sigma
    apply lowerAt_sigma_congr
    rw [endsWord_of_uncased_before plain]
    cases cased : startsCased before with
    | false => exact endsWord_of_uncased_before cased
    | true =>
      cases following : startsCased (rest ++ after) with
      | true => exact endsWord_of_cased_after following
      | false => exact absurd ⟨cased, [], rest, rfl, rfl, following⟩ kept
  · exact lowerAt_other sigma before before' (rest ++ after) (rest ++ after)

theorem lowerBetween_front {before before' s after : List Char} (plain : startsCased before' = false)
    (kept : ¬ ClosesAtFront before s after) :
    lowerBetween before s after = lowerBetween before' s after := by
  induction s generalizing before before' with
  | nil => rfl
  | cons c rest ih =>
    have here := lowerAt_front plain kept
    by_cases ignorable : isCaseIgnorable c = true
    · have later : ¬ ClosesAtFront (c :: before) rest after := by
        intro closes
        obtain ⟨cased, skipped, tail, rfl, all, uncased⟩ := closes
        rw [startsCased_cons_skips ignorable] at cased
        exact kept ⟨cased, c :: skipped, tail, rfl, by simp [ignorable, all], uncased⟩
      have hidden : startsCased (c :: before') = false := by
        rw [startsCased_cons_skips ignorable, plain]
      rw [lowerBetween, lowerBetween, here, ih hidden later]
    · -- `c` hides what stands in front from the rest
      have seen : isCaseIgnorable c = false := by simpa using ignorable
      have same : startsCased (c :: before) = startsCased (c :: before') := by
        rw [startsCased_cons_stops seen before, startsCased_cons_stops seen before']
      rw [lowerBetween, lowerBetween, here, lowerBetween_congr rest same rfl]

theorem lowerAt_back {before rest after after' : List Char} {c : Char} (plain : startsCased after' = false)
    (closed : startsCased after = true → c = 'Σ' → rest.all isCaseIgnorable = true →
      startsCased before = false) :
    lowerAt before c (rest ++ after) = lowerAt before c (rest ++ after') := by
  by_cases sigma : c = 'Σ'
  · apply lowerAt_sigma_congr
    cases all : rest.all isCaseIgnorable with
    | false => rw [endsWord, endsWord, startsCased_stops all, startsCased_stops all]
    | true =>
      cases cased : startsCased after with
      | false => rw [endsWord, endsWord, startsCased_skips all, startsCased_skips all, cased, plain]
      | true =>
        have uncased := closed cased sigma all
        rw [endsWord_of_uncased_before uncased, endsWord_of_uncased_before uncased]
  · exact lowerAt_other sigma before before (rest ++ after) (rest ++ after')

theorem lowerBetween_back {before s after after' : List Char} (plain : startsCased after' = false)
    (closed : startsCased after = true → ∀ front skipped, s = front ++ 'Σ' :: skipped →
      skipped.all isCaseIgnorable = true → startsCased (front.reverse ++ before) = false) :
    lowerBetween before s after = lowerBetween before s after' := by
  induction s generalizing before with
  | nil => rfl
  | cons c rest ih =>
    have later : lowerBetween (c :: before) rest after = lowerBetween (c :: before) rest after' := by
      apply ih
      intro cased front skipped split all
      have uncased := closed cased (c :: front) skipped (by rw [split, List.cons_append]) all
      simpa using uncased
    have here : lowerAt before c (rest ++ after) = lowerAt before c (rest ++ after') := by
      apply lowerAt_back plain
      intro cased sigma all
      subst sigma
      exact closed cased [] rest rfl all
    rw [lowerBetween, lowerBetween, here, later]

theorem lowerBetween_eq_lower {before s after : List Char} (frontKept : ¬ ClosesAtFront before s after)
    (backKept : ¬ OpensAtBack s after) : lowerBetween before s after = lower s := by
  have nothing : startsCased [] = false := rfl
  have alone : lowerBetween [] s after = lowerBetween [] s [] := by
    apply lowerBetween_back nothing
    intro cased front skipped split all
    rw [List.append_nil]
    cases word : startsCased front.reverse with
    | false => rfl
    | true => exact absurd ⟨cased, front, skipped, split, all, word⟩ backKept
  rw [lowerBetween_front nothing frontKept, alone, lower_eq_between]

theorem edge_of_closes {before s after : List Char} (closes : ClosesAtFront before s after) :
    SigmaAtEdge s := by
  obtain ⟨_, skipped, rest, split, all, uncased⟩ := closes
  refine Or.inl ⟨skipped, rest, split, all, ?_⟩
  cases cased : startsCased rest with
  | false => rfl
  | true =>
    rw [startsCased_append_left cased] at uncased
    contradiction

theorem edge_of_opens {s after : List Char} (opens : OpensAtBack s after) : SigmaAtEdge s :=
  Or.inr opens.2

def seesSigma (test : List Char → Bool) (s : List Char) : Bool :=
  match s.dropWhile isCaseIgnorable with
  | [] => false
  | c :: rest => c = 'Σ' && test rest

theorem seesSigma_iff (test : List Char → Bool) (s : List Char) :
    seesSigma test s = true ↔
      ∃ skipped rest, s = skipped ++ 'Σ' :: rest ∧ skipped.all isCaseIgnorable = true ∧ test rest = true := by
  constructor
  · intro seen
    unfold seesSigma at seen
    split at seen
    · contradiction
    · rename_i c rest tail
      rw [Bool.and_eq_true, decide_eq_true_iff] at seen
      obtain ⟨sigma, passed⟩ := seen
      subst sigma
      refine ⟨s.takeWhile isCaseIgnorable, rest, ?_, by simp, passed⟩
      rw [← tail, List.takeWhile_append_dropWhile]
  · intro found
    obtain ⟨skipped, rest, split, all, passed⟩ := found
    have tail : s.dropWhile isCaseIgnorable = 'Σ' :: rest := by
      rw [split, List.dropWhile_append_of_pos (List.all_eq_true.mp all),
        List.dropWhile_cons_of_neg (by simp [sigma_not_ignorable])]
    simp [seesSigma, tail, passed]

/-- The last Σ is looked for from the end. -/
theorem sigmaAtEdge_iff (s : List Char) :
    SigmaAtEdge s ↔
      seesSigma (fun rest => !startsCased rest) s = true ∨ seesSigma startsCased s.reverse = true := by
  rw [SigmaAtEdge, seesSigma_iff, seesSigma_iff]
  apply or_congr
  · simp
  · constructor
    · intro found
      obtain ⟨front, skipped, split, all, cased⟩ := found
      exact ⟨skipped.reverse, front.reverse, by simp [split], by simpa using all, cased⟩
    · intro found
      obtain ⟨skipped, rest, split, all, cased⟩ := found
      have forward := congrArg List.reverse split
      refine ⟨rest.reverse, skipped.reverse, ?_, by simpa using all, by rw [List.reverse_reverse, cased]⟩
      simpa using forward

instance (s : List Char) : Decidable (SigmaAtEdge s) := decidable_of_iff _ (sigmaAtEdge_iff s).symm

theorem lowerBetween_sigma (before front rest after : List Char) :
    lowerBetween before (front ++ 'Σ' :: rest) after =
      lowerBetween before front ['Σ'] ++
        (if endsWord (front.reverse ++ before) (rest ++ after) then 'ς' else 'σ') ::
          lowerBetween ['Σ'] rest after := by
  have first : lowerBetween before front ('Σ' :: rest ++ after) = lowerBetween before front ['Σ'] :=
    lowerBetween_congr front rfl (by rw [List.cons_append, startsCased_sigma, startsCased_sigma])
  have last : lowerBetween ('Σ' :: (front.reverse ++ before)) rest after = lowerBetween ['Σ'] rest after :=
    lowerBetween_congr rest (by rw [startsCased_sigma, startsCased_sigma]) rfl
  rw [lowerBetween_append, first, lowerBetween, last, lowerAt, if_pos rfl]
  rfl

theorem lowerBetween_skipped {s : List Char} (skipped : s.all isCaseIgnorable = true)
    (before after : List Char) : lowerBetween before s after = lower s := by
  have absent := sigma_not_mem_skipped skipped
  apply lowerBetween_eq_lower
  · intro closes
    obtain ⟨_, start, rest, rfl, _⟩ := closes
    exact absent (by simp)
  · intro opens
    obtain ⟨_, start, rest, rfl, _⟩ := opens
    exact absent (by simp)

theorem not_infix_of_count {c : Char} {s t : List Char} (fewer : t.count c < s.count c) : ¬ s <:+: t := by
  intro inside
  have bound := inside.sublist.count_le c
  omega

theorem lower_letter_before (s : List Char) : lower ('a' :: s) = 'a' :: lowerBetween ['a'] s [] := by
  rw [lower_eq_between, lowerBetween, List.append_nil]
  rfl

theorem lower_letter_after (s : List Char) : lower (s ++ ['a']) = lowerBetween [] s ['a'] ++ ['a'] := by
  rw [lower_eq_between, lowerBetween_append]
  rfl

theorem front_letter_hides {skipped rest : List Char} (all : skipped.all isCaseIgnorable = true)
    (uncased : startsCased rest = false) :
    ¬ lower (skipped ++ 'Σ' :: rest) <:+: lower ('a' :: (skipped ++ 'Σ' :: rest)) := by
  have nothing : startsCased [] = false := rfl
  have letter : startsCased ['a'] = true := by decide +kernel
  have ends : endsWord (skipped.reverse ++ ['a']) (rest ++ []) = true := by
    rw [List.append_nil, endsWord, startsCased_skips (by simpa using all), letter, uncased]
    rfl
  have opens : endsWord (skipped.reverse ++ []) (rest ++ []) = false := by
    apply endsWord_of_uncased_before
    rw [startsCased_skips (by simpa using all), nothing]
  have same : lowerBetween ['a'] skipped ['Σ'] = lowerBetween [] skipped ['Σ'] := by
    rw [lowerBetween_skipped all ['a'], lowerBetween_skipped all []]
  apply not_infix_of_count (c := 'σ')
  rw [lower_letter_before, lower_eq_between, lowerBetween_sigma, lowerBetween_sigma, ends, opens, same]
  simp

theorem back_letter_hides {front skipped : List Char} (all : skipped.all isCaseIgnorable = true)
    (cased : startsCased front.reverse = true) :
    ¬ lower (front ++ 'Σ' :: skipped) <:+: lower (front ++ 'Σ' :: skipped ++ ['a']) := by
  have nothing : startsCased [] = false := rfl
  have letter : startsCased ['a'] = true := by decide +kernel
  have continues : endsWord (front.reverse ++ []) (skipped ++ ['a']) = false := by
    apply endsWord_of_cased_after
    rw [startsCased_skips all, letter]
  have ends : endsWord (front.reverse ++ []) (skipped ++ []) = true := by
    rw [List.append_nil, endsWord, startsCased_skips all, cased, nothing]
    rfl
  have same : lowerBetween ['Σ'] skipped ['a'] = lowerBetween ['Σ'] skipped [] := by
    rw [lowerBetween_skipped all ['Σ'] ['a'], lowerBetween_skipped all ['Σ'] []]
  apply not_infix_of_count (c := 'ς')
  rw [lower_letter_after, lower_eq_between, lowerBetween_sigma, lowerBetween_sigma, ends, continues, same]
  simp

theorem edge_hides {s : List Char} (edge : SigmaAtEdge s) :
    ∃ before after, ¬ lower s <:+: lower (before ++ s ++ after) := by
  rcases edge with ⟨skipped, rest, rfl, all, uncased⟩ | ⟨front, skipped, rfl, all, cased⟩
  · refine ⟨['a'], [], ?_⟩
    rw [List.append_nil, List.singleton_append]
    exact front_letter_hides all uncased
  · exact ⟨[], ['a'], back_letter_hides all cased⟩

theorem infix_lower_around {front piece back : List Char}
    (kept : lowerBetween front.reverse piece back = lower piece) :
    lower piece <:+: lower (front ++ piece ++ back) := by
  rw [lower_around, kept]
  exact List.infix_append _ _ _

end Chars
end BookSearch
