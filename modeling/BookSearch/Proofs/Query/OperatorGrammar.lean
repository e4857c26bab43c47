import BookSearch.Proofs.Query.Tightening
import BookSearch.Proofs.Text.Runs
import BookSearch.Proofs.Text.LowercaseInContext
import BookSearch.Query

/-!
The grammar of queries with operators, read off the raw text: which characters stand in it and what
stands on the two sides of an operator. Reading lowercases, trims and tightens first; that this sees the
same operators and gives the same operands as cutting the raw text is the content of the main statement.
-/
namespace BookSearch

/-- What each operator asks for, and how a query that misuses it is refused. -/
inductive Operates : Char → Strategy → QueryError → Prop where
  | union : Operates '|' .union .malformedUnion
  | difference : Operates '-' .difference .malformedDifference

inductive OperatorReading : Option String → Except QueryError Query → Prop where
  | absent : OperatorReading none (.error .absent)
  | blank {raw : String} (blank : ¬ Text.NonBlank raw) : OperatorReading (some raw) (.error .blank)
  | simple {raw : String} (written : Text.NonBlank raw) (noUnion : '|' ∉ raw.toList)
      (noDifference : '-' ∉ raw.toList) :
      OperatorReading (some raw)
        (.ok ⟨Text.lower (Text.trim raw), Text.lower (Text.trim raw), none, .simple⟩)
  | pair {l r : String} {c : Char} {strategy : Strategy} {refusal : QueryError}
      (operates : Operates c strategy refusal) (left : Text.NonBlank l) (right : Text.NonBlank r)
      (plainLeft : '|' ∉ l.toList ∧ '-' ∉ l.toList)
      (plainRight : '|' ∉ r.toList ∧ '-' ∉ r.toList) :
      OperatorReading (some (l ++ String.singleton c ++ r))
        (.ok ⟨Text.lower (Text.trim l) ++ String.singleton c ++ Text.lower (Text.trim r),
          Text.lower (Text.trim l), some (Text.lower (Text.trim r)), strategy⟩)
  | mixed {raw : String} (union : '|' ∈ raw.toList) (difference : '-' ∈ raw.toList) :
      OperatorReading (some raw) (.error .mixedOperators)
  /-- The operator is repeated, or one of its sides is blank. -/
  | malformed {l r : String} {c : Char} {strategy : Strategy} {refusal : QueryError}
      (operates : Operates c strategy refusal)
      (alone : ∀ d ∈ (l ++ String.singleton c ++ r).toList, isOperator d = true → d = c)
      (faulty : c ∈ r.toList ∨ ¬ Text.NonBlank l ∨ ¬ Text.NonBlank r) :
      OperatorReading (some (l ++ String.singleton c ++ r)) (.error refusal)

namespace Chars

def tightNormal (s : List Char) : List Char := tighten (lower (trim s))

theorem solid_tightNormal (s : List Char) : solid (tightNormal s) = solid (lower s) := by
  rw [tightNormal, solid_tighten, lower_trim, solid_trim]

theorem mem_solid_iff {c : Char} (dark : isBlank c = false) (s : List Char) : c ∈ solid s ↔ c ∈ s := by
  simp [solid, dark]

theorem operator_mem_tightNormal {c : Char} (operator : isOperator c = true) (s : List Char) :
    c ∈ tightNormal s ↔ c ∈ s := by
  have dark := operator_not_blank operator
  rw [← mem_solid_iff dark, solid_tightNormal, mem_solid_iff dark,
    break_mem_lower (break_of_operator operator)]

/-- Without its blanks, the text in which operators are looked for falls apart as the raw text does. -/
theorem tightNormal_split {c : Char} {l r : List Char} (operator : isOperator c = true) (first : c ∉ l) :
    ∃ x y, tightNormal (l ++ c :: r) = x ++ c :: y ∧ c ∉ x ∧ solid x = solid (lower l) ∧
      solid y = solid (lower r) := by
  have dark := operator_not_blank operator
  have ends := break_of_operator operator
  have present : c ∈ tightNormal (l ++ c :: r) :=
    (operator_mem_tightNormal operator _).mpr (by simp)
  obtain ⟨x, y, split, absent⟩ := List.eq_append_cons_of_mem present
  have same := solid_tightNormal (l ++ c :: r)
  rw [split, lower_join ends, solid_append, solid_append, solid_cons_of_not_blank dark,
    solid_cons_of_not_blank dark] at same
  have absentSolid : c ∉ solid x := fun member => absent ((mem_solid_iff dark x).mp member)
  have absentLower : c ∉ solid (lower l) := fun member =>
    first ((break_mem_lower ends l).mp ((mem_solid_iff dark _).mp member))
  obtain ⟨left, right⟩ := first_split_unique absentSolid absentLower same
  exact ⟨x, y, split, absent, left, right⟩

theorem trim_eq_nil_of_solid {x l : List Char} (same : solid x = solid (lower l)) :
    trim x = [] ↔ l.all isBlank = true := by
  rw [trim_eq_nil_iff, ← solid_eq_nil_iff, same, solid_eq_nil_iff, lower_all_blank_iff]

theorem plain_lower {l : List Char} (plain : ∀ d ∈ l, isOperator d = false) :
    ∀ d ∈ lower l, isOperator d = false := by
  intro d member
  cases operator : isOperator d with
  | false => rfl
  | true =>
    have raw := (break_mem_lower (break_of_operator operator) l).mp member
    rw [plain d raw] at operator
    contradiction

theorem tightNormal_pair {c : Char} {l r : List Char} (operator : isOperator c = true)
    (plainLeft : ∀ d ∈ l, isOperator d = false) (plainRight : ∀ d ∈ r, isOperator d = false) :
    tightNormal (l ++ c :: r) = lower (trim l) ++ c :: lower (trim r) := by
  have dark := operator_not_blank operator
  have left : ∀ d ∈ trimStart (lower l), isOperator d = false := fun d member =>
    plain_lower plainLeft d (mem_of_mem_trimStart member)
  have right : ∀ d ∈ trimEnd (lower r), isOperator d = false := fun d member =>
    plain_lower plainRight d (mem_of_mem_trimEnd member)
  calc tightNormal (l ++ c :: r)
      = tighten (trim (lower l ++ c :: lower r)) := by
        rw [tightNormal, lower_trim, lower_join (break_of_operator operator)]
    _ = tighten (trimStart (lower l) ++ c :: trimEnd (lower r)) := by rw [trim_around dark]
    _ = trim (lower l) ++ c :: trimStart (trimEnd (lower r)) := by
        rw [tighten_pair operator left right, trim]
    _ = lower (trim l) ++ c :: lower (trim r) := by rw [trimStart_trimEnd, lower_trim, lower_trim]

end Chars

namespace Query

theorem operands_of_split {c : Char} {x y : List Char} (first : c ∉ x) :
    operands? c (x ++ c :: y) =
      if c ∈ y ∨ Chars.trim x = [] ∨ Chars.trim y = [] then none
      else some (Chars.trim x, Chars.trim y) := by
  rw [operands?, Chars.takeWhile_first first, Chars.dropWhile_first first]
  simp [or_assoc]

theorem parse_blank {raw : String} (blank : ¬ Text.NonBlank raw) (mode : Mode) :
    parse mode (some raw) = .error .blank := by
  simp [parse, normalize, (Text.trim_isEmpty_iff raw).mpr blank]

theorem normalize_written {raw : String} (written : Text.NonBlank raw) :
    normalize (some raw) = .ok (Text.lower (Text.trim raw)) := by
  have kept : (Text.trim raw).isEmpty = false := by
    rw [← Bool.not_eq_true, Text.trim_isEmpty_iff]
    exact not_not_intro written
  simp [normalize, kept]

theorem parse_literal_written {raw : String} (written : Text.NonBlank raw) :
    parse .literal (some raw) = .ok (single (Text.lower (Text.trim raw))) := by
  rw [parse, normalize_written written]

theorem parse_operators_written {raw : String} (written : Text.NonBlank raw) :
    parse .operators (some raw) = ofNormalized (Text.lower (Text.trim raw)) := by
  rw [parse, normalize_written written]

theorem ofNormalized_lower_trim (raw : String) :
    Chars.tighten (Text.lower (Text.trim raw)).toList = Chars.tightNormal raw.toList := by
  rw [Text.toList_lower, Text.toList_trim, Chars.tightNormal]

theorem written_of_operator {raw : String} {c : Char} (operator : isOperator c = true)
    (present : c ∈ raw.toList) : Text.NonBlank raw :=
  ⟨c, present, Chars.operator_not_blank operator⟩

theorem tightNormal_contains {c : Char} (operator : isOperator c = true) (raw : String) :
    (Chars.tightNormal raw.toList).contains c = decide (c ∈ raw.toList) := by
  rw [Bool.eq_iff_iff, decide_eq_true_iff, List.contains_iff_mem, Chars.operator_mem_tightNormal operator]

theorem operates_operator {c : Char} {strategy : Strategy} {refusal : QueryError}
    (operates : Operates c strategy refusal) : isOperator c = true := by
  cases operates <;> decide

theorem parse_operators_cases {raw : String} (written : Text.NonBlank raw) :
    parse .operators (some raw) =
      if '|' ∈ raw.toList then
        if '-' ∈ raw.toList then .error .mixedOperators
        else paired (Chars.tightNormal raw.toList) '|' .union .malformedUnion
      else if '-' ∈ raw.toList then
        paired (Chars.tightNormal raw.toList) '-' .difference .malformedDifference
      else .ok (single (Text.lower (Text.trim raw))) := by
  rw [parse_operators_written written, ofNormalized, ofNormalized_lower_trim]
  simp only [unionOperator, differenceOperator, tightNormal_contains (by decide : isOperator '|' = true),
    tightNormal_contains (by decide : isOperator '-' = true), decide_eq_true_eq]

theorem parse_one_operator {raw : String} {c : Char} {strategy : Strategy} {refusal : QueryError}
    (operates : Operates c strategy refusal) (present : c ∈ raw.toList)
    (alone : ∀ d ∈ raw.toList, isOperator d = true → d = c) :
    parse .operators (some raw) = paired (Chars.tightNormal raw.toList) c strategy refusal := by
  rw [parse_operators_cases (written_of_operator (operates_operator operates) present)]
  cases operates with
  | union =>
    have other : '-' ∉ raw.toList := fun member => absurd (alone '-' member (by decide)) (by decide)
    rw [if_pos present, if_neg other]
  | difference =>
    have other : '|' ∉ raw.toList := fun member => absurd (alone '|' member (by decide)) (by decide)
    rw [if_neg other, if_pos present]

/-- Which operand is missing or repeated can be told from the raw text, cut at the first operator. -/
theorem paired_first_split {c : Char} {l r : List Char} {strategy : Strategy} {refusal : QueryError}
    (operator : isOperator c = true) (first : c ∉ l)
    (faulty : c ∈ r ∨ l.all Chars.isBlank = true ∨ r.all Chars.isBlank = true) :
    paired (Chars.tightNormal (l ++ c :: r)) c strategy refusal = .error refusal := by
  have dark := Chars.operator_not_blank operator
  obtain ⟨x, y, split, absent, left, right⟩ := Chars.tightNormal_split (r := r) operator first
  have refused : c ∈ y ∨ Chars.trim x = [] ∨ Chars.trim y = [] := by
    rcases faulty with again | blank | blank
    · left
      rw [← Chars.mem_solid_iff dark, right, Chars.mem_solid_iff dark,
        Chars.break_mem_lower (Chars.break_of_operator operator)]
      exact again
    · exact Or.inr (Or.inl ((Chars.trim_eq_nil_of_solid left).mpr blank))
    · exact Or.inr (Or.inr ((Chars.trim_eq_nil_of_solid right).mpr blank))
  rw [paired, split, operands_of_split absent, if_pos refused]

end Query

namespace OperatorReading

theorem parse_malformed {l r : String} {c : Char} {strategy : Strategy} {refusal : QueryError}
    (operates : Operates c strategy refusal)
    (alone : ∀ d ∈ (l ++ String.singleton c ++ r).toList, isOperator d = true → d = c)
    (faulty : c ∈ r.toList ∨ ¬ Text.NonBlank l ∨ ¬ Text.NonBlank r) :
    Query.parse .operators (some (l ++ String.singleton c ++ r)) = .error refusal := by
  have operator := Query.operates_operator operates
  have cut : (l ++ String.singleton c ++ r).toList = l.toList ++ c :: r.toList := by simp
  rw [Query.parse_one_operator operates (by rw [cut]; simp) alone, cut]
  by_cases earlier : c ∈ l.toList
  · -- the cut is not at the first operator, so the operator is repeated
    obtain ⟨x, y, split, first⟩ := List.eq_append_cons_of_mem earlier
    rw [split, List.append_assoc, List.cons_append]
    exact Query.paired_first_split operator first (Or.inl (by simp))
  · rw [Text.not_nonBlank_iff, Text.not_nonBlank_iff] at faulty
    exact Query.paired_first_split operator earlier faulty

theorem plain_of_neither {s : List Char} (neither : '|' ∉ s ∧ '-' ∉ s) :
    ∀ d ∈ s, isOperator d = false := by
  intro d member
  rw [← Bool.not_eq_true]
  intro operator
  rcases Chars.operator_cases operator with rfl | rfl
  · exact neither.1 member
  · exact neither.2 member

theorem ofList_lower_trim (t : String) :
    String.ofList (Chars.lower (Chars.trim t.toList)) = Text.lower (Text.trim t) := by
  rw [Text.lower, Text.toList_trim]

theorem ofList_operands (l r : String) (c : Char) :
    String.ofList (Chars.lower (Chars.trim l.toList) ++ c :: Chars.lower (Chars.trim r.toList)) =
      Text.lower (Text.trim l) ++ String.singleton c ++ Text.lower (Text.trim r) := by
  apply String.toList_injective
  simp

theorem alone_between {c : Char} {l r : List Char} (plainLeft : ∀ d ∈ l, isOperator d = false)
    (plainRight : ∀ d ∈ r, isOperator d = false) : ∀ d ∈ l ++ c :: r, isOperator d = true → d = c := by
  intro d member operator
  rw [List.mem_append, List.mem_cons] at member
  rcases member with before | here | after
  · rw [plainLeft d before] at operator
    contradiction
  · exact here
  · rw [plainRight d after] at operator
    contradiction

theorem absent_from_operand {c : Char} {s : List Char} (operator : isOperator c = true)
    (plain : ∀ d ∈ s, isOperator d = false) : c ∉ Chars.lower (Chars.trim s) := by
  intro member
  have raw := (Chars.break_mem_lower (Chars.break_of_operator operator) _).mp member
  rw [plain c (Chars.mem_of_mem_trim raw)] at operator
  contradiction

theorem parse_pair {l r : String} {c : Char} {strategy : Strategy} {refusal : QueryError}
    (operates : Operates c strategy refusal) (left : Text.NonBlank l) (right : Text.NonBlank r)
    (plainLeft : ∀ d ∈ l.toList, isOperator d = false)
    (plainRight : ∀ d ∈ r.toList, isOperator d = false) :
    Query.parse .operators (some (l ++ String.singleton c ++ r)) =
      .ok ⟨Text.lower (Text.trim l) ++ String.singleton c ++ Text.lower (Text.trim r),
        Text.lower (Text.trim l), some (Text.lower (Text.trim r)), strategy⟩ := by
  have operator := Query.operates_operator operates
  have cut : (l ++ String.singleton c ++ r).toList = l.toList ++ c :: r.toList := by simp
  have alone : ∀ d ∈ (l ++ String.singleton c ++ r).toList, isOperator d = true → d = c := by
    rw [cut]
    exact alone_between plainLeft plainRight
  have kept : ¬ (c ∈ Chars.lower (Chars.trim r.toList) ∨
      Chars.trim (Chars.lower (Chars.trim l.toList)) = [] ∨
        Chars.trim (Chars.lower (Chars.trim r.toList)) = []) := by
    rw [Chars.trim_lower_trim, Chars.trim_lower_trim, Chars.lower_trim_eq_nil_iff,
      Chars.lower_trim_eq_nil_iff, ← Text.not_nonBlank_iff, ← Text.not_nonBlank_iff]
    intro fault
    rcases fault with again | blank | blank
    · exact absent_from_operand operator plainRight again
    · exact blank left
    · exact blank right
  rw [Query.parse_one_operator operates (by rw [cut]; simp) alone, cut,
    Chars.tightNormal_pair operator plainLeft plainRight, Query.paired,
    Query.operands_of_split (absent_from_operand operator plainLeft), if_neg kept, Chars.trim_lower_trim,
    Chars.trim_lower_trim]
  simp only [ofList_lower_trim, ofList_operands]

theorem parse_of_reading {raw : Option String} {result : Except QueryError Query}
    (reading : OperatorReading raw result) : Query.parse .operators raw = result := by
  cases reading with
  | absent => rfl
  | blank blank => exact Query.parse_blank blank .operators
  | simple written noUnion noDifference =>
    rw [Query.parse_operators_cases written, if_neg noUnion, if_neg noDifference, Query.single]
  | pair operates left right plainLeft plainRight =>
    exact parse_pair operates left right (plain_of_neither plainLeft) (plain_of_neither plainRight)
  | mixed union difference =>
    rw [Query.parse_operators_cases (Query.written_of_operator (by decide) union), if_pos union,
      if_pos difference]
  | malformed operates alone faulty => exact parse_malformed operates alone faulty

theorem exists_first_cut {raw : String} {c : Char} (present : c ∈ raw.toList) :
    ∃ l r : String, raw = l ++ String.singleton c ++ r ∧ c ∉ l.toList := by
  obtain ⟨x, y, split, first⟩ := List.eq_append_cons_of_mem present
  refine ⟨String.ofList x, String.ofList y, ?_, by simpa using first⟩
  apply String.toList_injective
  simp [split]

theorem neither_in_part {s t : List Char} {c : Char} (alone : ∀ d ∈ s, isOperator d = true → d = c)
    (inside : t ⊆ s) (absent : c ∉ t) : '|' ∉ t ∧ '-' ∉ t := by
  constructor
  · intro member
    have same := alone '|' (inside member) (by decide)
    exact absent (same ▸ member)
  · intro member
    have same := alone '-' (inside member) (by decide)
    exact absent (same ▸ member)

theorem exists_one_operator {raw : String} {c : Char} {strategy : Strategy} {refusal : QueryError}
    (operates : Operates c strategy refusal) (present : c ∈ raw.toList)
    (alone : ∀ d ∈ raw.toList, isOperator d = true → d = c) :
    ∃ result, OperatorReading (some raw) result := by
  obtain ⟨l, r, rfl, first⟩ := exists_first_cut present
  by_cases faulty : c ∈ r.toList ∨ ¬ Text.NonBlank l ∨ ¬ Text.NonBlank r
  · exact ⟨_, malformed operates alone faulty⟩
  · obtain ⟨last, left, right⟩ : c ∉ r.toList ∧ Text.NonBlank l ∧ Text.NonBlank r := by
      simpa only [not_or, Classical.not_not] using faulty
    have inLeft : l.toList ⊆ (l ++ String.singleton c ++ r).toList := by simp
    have inRight : r.toList ⊆ (l ++ String.singleton c ++ r).toList := by simp
    have plainLeft := neither_in_part alone inLeft first
    have plainRight := neither_in_part alone inRight last
    exact ⟨_, pair operates left right plainLeft plainRight⟩

theorem only_operator {s : List Char} {c other : Char}
    (two : ∀ d, isOperator d = true → d = c ∨ d = other) (absent : other ∉ s) :
    ∀ d ∈ s, isOperator d = true → d = c := by
  intro d member operator
  rcases two d operator with here | rfl
  · exact here
  · exact absurd member absent

theorem total (raw : Option String) : ∃ result, OperatorReading raw result := by
  cases raw with
  | none => exact ⟨_, absent⟩
  | some raw =>
    by_cases union : '|' ∈ raw.toList
    · by_cases difference : '-' ∈ raw.toList
      · exact ⟨_, mixed union difference⟩
      · have alone := only_operator (c := '|') (fun d => Chars.operator_cases) difference
        exact exists_one_operator Operates.union union alone
    · by_cases difference : '-' ∈ raw.toList
      · have alone := only_operator (c := '-') (fun d operator => (Chars.operator_cases operator).symm) union
        exact exists_one_operator Operates.difference difference alone
      · by_cases written : Text.NonBlank raw
        · exact ⟨_, simple written union difference⟩
        · exact ⟨_, blank written⟩

end OperatorReading

theorem OperatorReading.terms_written {raw : Option String} {result : Except QueryError Query}
    (reading : OperatorReading raw result) {query : Query} (read : result = .ok query) :
    Text.NonBlank query.left ∧ ∀ term ∈ query.right, Text.NonBlank term := by
  cases reading with
  | simple written =>
    rw [Except.ok.injEq] at read
    subst read
    exact ⟨(Text.nonBlank_lower_trim_iff _).mpr written, by simp⟩
  | pair _ left right =>
    rw [Except.ok.injEq] at read
    subst read
    refine ⟨(Text.nonBlank_lower_trim_iff _).mpr left, ?_⟩
    intro term given
    rw [Option.mem_some_iff] at given
    subst given
    exact (Text.nonBlank_lower_trim_iff _).mpr right
  | _ => contradiction

theorem terms_written {mode : Mode} {raw : Option String} {query : Query}
    (parsed : Query.parse mode raw = .ok query) :
    Text.NonBlank query.left ∧ ∀ term ∈ query.right, Text.NonBlank term := by
  cases mode with
  | literal =>
    cases raw with
    | none => exact absurd parsed (by simp [Query.parse, normalize])
    | some raw =>
      by_cases written : Text.NonBlank raw
      · rw [Query.parse_literal_written written, Except.ok.injEq] at parsed
        subst parsed
        exact ⟨(Text.nonBlank_lower_trim_iff raw).mpr written, by simp [Query.single]⟩
      · rw [Query.parse_blank written] at parsed
        contradiction
  | operators =>
    obtain ⟨result, reading⟩ := OperatorReading.total raw
    rw [OperatorReading.parse_of_reading reading] at parsed
    exact reading.terms_written parsed

/-- Reading a raw text where operators count is what the grammar says, and nothing else. -/
theorem parse_operators_iff_reading (raw : Option String) (result : Except QueryError Query) :
    Query.parse .operators raw = result ↔ OperatorReading raw result := by
  constructor
  · intro parsed
    obtain ⟨other, reading⟩ := OperatorReading.total raw
    rw [← parsed, OperatorReading.parse_of_reading reading]
    exact reading
  · exact OperatorReading.parse_of_reading

end BookSearch
