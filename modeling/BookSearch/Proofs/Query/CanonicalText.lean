import Mathlib.Data.List.Basic
import BookSearch.Proofs.Query.OperatorGrammar

/-!
The normalized text of a query as its canonical form: it reads back to the query it came from, so that
counting queries by their normalized text counts equal queries together and no others.
-/
namespace BookSearch

structure Text.Canonical (t : String) : Prop where
  written : t ≠ ""
  bare : Chars.Bare t.toList
  lowered : Text.lower t = t

structure Query.Canonical (query : Query) : Prop where
  normalized : Text.Canonical query.normalized
  left : Text.Canonical query.left
  right : ∀ term ∈ query.right, Text.Canonical term
  paired : query.right.isSome = true ↔ query.strategy = .union ∨ query.strategy = .difference

theorem Chars.bare_join {l r : List Char} (front : l ≠ []) (back : r ≠ []) (left : Bare l) (right : Bare r)
    (c : Char) : Bare (l ++ c :: r) := by
  constructor
  · rw [List.head?_append_of_ne_nil l front]
    exact left.1
  · rw [← List.singleton_append, ← List.append_assoc, List.getLast?_append_of_ne_nil _ back]
    exact right.2

namespace Text

theorem canonical_lower_trim {raw : String} (written : NonBlank raw) : Canonical (lower (trim raw)) where
  written := by
    rw [Ne, ← String.toList_eq_nil_iff, toList_lower, toList_trim, Chars.lower_trim_eq_nil_iff,
      ← not_nonBlank_iff]
    exact not_not_intro written
  bare := by
    rw [toList_lower, toList_trim]
    exact Chars.bare_lower (Chars.trim_is_bare raw.toList)
  lowered := lower_lower (trim raw)

theorem Canonical.trimmed {t : String} (canonical : Canonical t) : trim t = t := by
  apply String.toList_injective
  rw [toList_trim, Chars.trim_bare canonical.bare]

theorem Canonical.lower_trim {t : String} (canonical : Canonical t) : lower (trim t) = t := by
  rw [canonical.trimmed, canonical.lowered]

theorem Canonical.nonBlank {t : String} (canonical : Canonical t) : NonBlank t := by
  cases front : t.toList with
  | nil => exact absurd (String.toList_eq_nil_iff.mp front) canonical.written
  | cons c rest =>
    have dark := canonical.bare.1 c (by rw [front]; rfl)
    exact ⟨c, by rw [front]; exact List.mem_cons_self, dark⟩

theorem Canonical.normalize {t : String} (canonical : Canonical t) : normalize (some t) = .ok t := by
  have written : (trim t).isEmpty = false := by
    rw [← Bool.not_eq_true, trim_isEmpty_iff, Classical.not_not]
    exact canonical.nonBlank
  rw [BookSearch.normalize, if_neg (by simp [written]), canonical.lower_trim]

theorem Canonical.parse_literal {t : String} (canonical : Canonical t) :
    Query.parse .literal (some t) = .ok (Query.single t) := by
  rw [Query.parse_literal_written canonical.nonBlank, canonical.lower_trim]

theorem canonical_join {l r : String} {c : Char} (operator : isOperator c = true) (left : Canonical l)
    (right : Canonical r) : Canonical (l ++ String.singleton c ++ r) := by
  have cut : (l ++ String.singleton c ++ r).toList = l.toList ++ c :: r.toList := by simp
  have ends := Chars.break_of_operator operator
  have front : l.toList ≠ [] := by
    intro nothing
    exact left.written (String.toList_eq_nil_iff.mp nothing)
  have back : r.toList ≠ [] := by
    intro nothing
    exact right.written (String.toList_eq_nil_iff.mp nothing)
  constructor
  · rw [Ne, ← String.toList_eq_nil_iff, cut]
    simp
  · rw [cut]
    exact Chars.bare_join front back left.bare right.bare c
  · have here : Chars.lower l.toList = l.toList := by rw [← toList_lower, left.lowered]
    have there : Chars.lower r.toList = r.toList := by rw [← toList_lower, right.lowered]
    apply String.toList_injective
    rw [toList_lower, cut, Chars.lower_join ends, here, there]

theorem operators_absent {raw : String} (neither : '|' ∉ raw.toList ∧ '-' ∉ raw.toList) :
    '|' ∉ (lower (trim raw)).toList ∧ '-' ∉ (lower (trim raw)).toList := by
  have plain := OperatorReading.plain_of_neither neither
  rw [toList_lower, toList_trim]
  constructor
  · exact OperatorReading.absent_from_operand (by decide) plain
  · exact OperatorReading.absent_from_operand (by decide) plain

end Text

theorem Query.canonical_single {t : String} (canonical : Text.Canonical t) : (single t).Canonical where
  normalized := canonical
  left := canonical
  right := by simp [single]
  paired := by simp [single]

theorem Operates.pairs {c : Char} {strategy : Strategy} {refusal : QueryError}
    (operates : Operates c strategy refusal) : strategy = .union ∨ strategy = .difference := by
  cases operates with
  | union => exact Or.inl rfl
  | difference => exact Or.inr rfl

/-- The terms of a reading are lowercased and trimmed already, so that doing both again changes neither
them nor the place of the operator. -/
theorem OperatorReading.again {raw : Option String} {result : Except QueryError Query}
    (reading : OperatorReading raw result) {query : Query} (read : result = .ok query) :
    query.Canonical ∧ OperatorReading (some query.normalized) (.ok query) := by
  cases reading with
  | simple written noUnion noDifference =>
    rw [Except.ok.injEq] at read
    subst read
    have canonical := Text.canonical_lower_trim written
    obtain ⟨noUnion, noDifference⟩ := Text.operators_absent ⟨noUnion, noDifference⟩
    have again := OperatorReading.simple canonical.nonBlank noUnion noDifference
    rw [canonical.lower_trim] at again
    exact ⟨Query.canonical_single canonical, again⟩
  | pair operates left right plainLeft plainRight =>
    rw [Except.ok.injEq] at read
    subst read
    have front := Text.canonical_lower_trim left
    have back := Text.canonical_lower_trim right
    have again := OperatorReading.pair operates front.nonBlank back.nonBlank
      (Text.operators_absent plainLeft) (Text.operators_absent plainRight)
    rw [front.lower_trim, back.lower_trim] at again
    refine ⟨?_, again⟩
    constructor
    · exact Text.canonical_join (Query.operates_operator operates) front back
    · exact front
    · intro term given
      rw [Option.mem_some_iff] at given
      rwa [← given]
    · simpa using operates.pairs
  | _ => contradiction

namespace Query

theorem written_of_parsed {mode : Mode} {raw : Option String} {query : Query}
    (parsed : parse mode raw = .ok query) : ∃ text, raw = some text ∧ Text.NonBlank text := by
  cases raw with
  | none => exact absurd parsed (by simp [parse, normalize])
  | some text =>
    by_cases written : Text.NonBlank text
    · exact ⟨text, rfl, written⟩
    · rw [parse_blank written] at parsed
      contradiction

theorem parse_literal_again {raw : Option String} {query : Query}
    (parsed : parse .literal raw = .ok query) :
    query.Canonical ∧ parse .literal (some query.normalized) = .ok query := by
  obtain ⟨text, rfl, written⟩ := written_of_parsed parsed
  rw [parse_literal_written written, Except.ok.injEq] at parsed
  subst parsed
  have canonical := Text.canonical_lower_trim written
  exact ⟨canonical_single canonical, canonical.parse_literal⟩

theorem parse_operators_again {raw : Option String} {query : Query}
    (parsed : parse .operators raw = .ok query) :
    query.Canonical ∧ parse .operators (some query.normalized) = .ok query := by
  obtain ⟨result, reading⟩ := OperatorReading.total raw
  rw [OperatorReading.parse_of_reading reading] at parsed
  obtain ⟨canonical, again⟩ := reading.again parsed
  exact ⟨canonical, OperatorReading.parse_of_reading again⟩

theorem parse_again {mode : Mode} {raw : Option String} {query : Query}
    (parsed : parse mode raw = .ok query) :
    query.Canonical ∧ parse mode (some query.normalized) = .ok query := by
  cases mode with
  | literal => exact parse_literal_again parsed
  | operators => exact parse_operators_again parsed

/-- A query that was read is in canonical form, its normalized text reads back to it, and no other query
that is read in the same mode has that text. -/
theorem parse_canonical (mode : Mode) (raw : Option String) (query : Query)
    (parsed : parse mode raw = .ok query) :
    query.Canonical ∧ parse mode (some query.normalized) = .ok query ∧
      ∀ (other : Option String) (found : Query), parse mode other = .ok found →
        found.normalized = query.normalized → found = query := by
  obtain ⟨canonical, again⟩ := parse_again parsed
  refine ⟨canonical, again, ?_⟩
  intro other found read same
  have back := (parse_again read).2
  rw [same, again] at back
  exact (Except.ok.inj back).symm

theorem sigmas_read_back :
    parse .operators (some " ΑΣ |\tİΣ ") = .ok ⟨"ας|i̇ς", "ας", some "i̇ς", .union⟩ ∧
      parse .operators (some "ας|i̇ς") = .ok ⟨"ας|i̇ς", "ας", some "i̇ς", .union⟩ := by
  have parsed : parse .operators (some " ΑΣ |\tİΣ ") = .ok ⟨"ας|i̇ς", "ας", some "i̇ς", .union⟩ := by
    rfl
  exact ⟨parsed, (parse_canonical .operators _ _ parsed).2.1⟩

end Query
end BookSearch
