import BookSearch.Proofs.Filter.QueryMeaning
import BookSearch.Proofs.Text.LowercaseInContext

/-!
Which queries can find anything. A written term stands in the title that spells it out, so a query without
a record to find has only blank terms or takes away a term that stands inside the one it asks for. Whether
a filter is `never` tells the same of one term and of a union, and less of a difference.
-/
namespace BookSearch

def Query.Satisfiable (query : Query) : Prop :=
  match query.strategy with
  | .simple => Text.NonBlank query.left
  | .union => Text.NonBlank query.left ∨ ∃ right ∈ query.right, Text.NonBlank right
  | .difference => Text.NonBlank query.left ∧ ∀ right ∈ query.right,
      ¬ Text.NonBlank right ∨ ¬ (Text.lower right).toList <:+: (Text.lower query.left).toList

instance (query : Query) : Decidable query.Satisfiable :=
  match query with
  | ⟨_, left, _, .simple⟩ => inferInstanceAs (Decidable (Text.NonBlank left))
  | ⟨_, left, right, .union⟩ =>
    inferInstanceAs (Decidable (Text.NonBlank left ∨ ∃ term ∈ right, Text.NonBlank term))
  | ⟨_, left, right, .difference⟩ =>
    inferInstanceAs (Decidable (Text.NonBlank left ∧ ∀ term ∈ right,
      ¬ Text.NonBlank term ∨ ¬ (Text.lower term).toList <:+: (Text.lower left).toList))

theorem titled_hits_itself (term : String) : (Record.titled term).Hit term :=
  ⟨.title, List.infix_rfl⟩

/-- A record in which a term is hit is hit by whatever stands inside the term. -/
theorem hit_inside {record : Record} {term inner : String} (hit : record.Hit term)
    (inside : (Text.lower inner).toList <:+: (Text.lower term).toList) : record.Hit inner := by
  obtain ⟨field, found⟩ := hit
  exact ⟨field, inside.trans found⟩

theorem titled_hit_inside {title term : String} (written : Text.NonBlank term)
    (hit : (Record.titled title).Hit term) : (Text.lower term).toList <:+: (Text.lower title).toList := by
  have present : Chars.lower term.toList ≠ [] := by
    intro nothing
    have blank : (Chars.lower term.toList).all Chars.isBlank = true := by simp [nothing]
    exact (Text.not_nonBlank_iff term).mpr ((Chars.lower_all_blank_iff _).mp blank) written
  simpa only [Text.toList_lower] using titled_hit present hit

/-- The record found is one that has nothing but the term for its title. -/
theorem exists_combines_iff (query : Query) :
    (∃ record : Record, query.Combines fun term => Text.NonBlank term ∧ record.Hit term) ↔
      query.Satisfiable := by
  unfold Query.Combines Query.Satisfiable
  cases query.strategy with
  | simple =>
    constructor
    · rintro ⟨record, written, _⟩
      exact written
    · intro written
      exact ⟨Record.titled query.left, written, titled_hits_itself _⟩
  | union =>
    constructor
    · rintro ⟨record, ⟨written, _⟩ | ⟨right, given, written, _⟩⟩
      · exact Or.inl written
      · exact Or.inr ⟨right, given, written⟩
    · rintro (written | ⟨right, given, written⟩)
      · exact ⟨Record.titled query.left, Or.inl ⟨written, titled_hits_itself _⟩⟩
      · exact ⟨Record.titled right, Or.inr ⟨right, given, written, titled_hits_itself _⟩⟩
  | difference =>
    constructor
    · rintro ⟨record, ⟨written, hit⟩, kept⟩
      refine ⟨written, ?_⟩
      intro right given
      by_cases blank : Text.NonBlank right
      · right
        intro inside
        exact kept ⟨right, given, blank, hit_inside hit inside⟩
      · exact Or.inl blank
    · rintro ⟨written, apart⟩
      refine ⟨Record.titled query.left, ⟨written, titled_hits_itself _⟩, ?_⟩
      rintro ⟨right, given, rightWritten, hit⟩
      rcases apart right given with blank | outside
      · exact blank rightWritten
      · exact outside (titled_hit_inside rightWritten hit)

namespace Filter

theorem accepts_of_isNever {filter : Filter} (hopeless : filter.isNever = true) (record : Record) :
    accepts record filter = false := by
  cases filter with
  | never => rfl
  | _ => exact absurd hopeless (by simp [isNever])

theorem ofTerm?_eq_none_iff (term : String) : ofTerm? term = none ↔ ¬ Text.NonBlank term := by
  simp [ofTerm?, Text.nonBlank_iff]

theorem isNever_of_ofTerm? {term : String} {filter : Filter} (given : ofTerm? term = some filter) :
    filter.isNever = false := by
  rw [eq_anyField given]
  rfl

theorem isNever_ofTerm_iff (term : String) : (ofTerm term).isNever = true ↔ ¬ Text.NonBlank term := by
  rw [← ofTerm?_eq_none_iff, ofTerm]
  cases given : ofTerm? term with
  | none => simp [isNever]
  | some filter => simp [isNever_of_ofTerm? given]

theorem isNever_union_iff (left : String) (right : Option String) :
    (union left right).isNever = true ↔
      ¬ (Text.NonBlank left ∨ ∃ term ∈ right, Text.NonBlank term) := by
  have rights : right.bind ofTerm? = none ↔ ¬ ∃ term ∈ right, Text.NonBlank term := by
    simp [Option.bind_eq_none_iff, ofTerm?_eq_none_iff]
  rw [not_or, ← ofTerm?_eq_none_iff, ← rights, union]
  cases one : ofTerm? left with
  | none =>
    cases other : right.bind ofTerm? with
    | none => simp [isNever]
    | some filter =>
      obtain ⟨term, _, given⟩ := Option.bind_eq_some_iff.mp other
      simp [isNever_of_ofTerm? given]
  | some filter =>
    cases other : right.bind ofTerm? with
    | none => simp [isNever_of_ofTerm? one]
    | some _ => simp [isNever]

theorem isNever_ofQuery_iff {query : Query} (combined : query.strategy ≠ .difference) :
    (ofQuery query).isNever = true ↔ ¬ query.Satisfiable := by
  unfold ofQuery Query.Satisfiable
  cases strategy : query.strategy with
  | simple => exact isNever_ofTerm_iff query.left
  | union => exact isNever_union_iff query.left query.right
  | difference => exact absurd strategy combined

/-- A query finds some record just when its terms allow it. A filter that is `never` finds none, and of one
term and of a union there is no other that finds none. -/
theorem some_accepted_iff (query : Query) :
    ((∃ record, accepts record (ofQuery query) = true) ↔ query.Satisfiable) ∧
      ((ofQuery query).isNever = true → ∀ record, accepts record (ofQuery query) = false) ∧
      (query.strategy ≠ .difference →
        ((ofQuery query).isNever = true ↔ ∀ record, accepts record (ofQuery query) = false)) := by
  have found : (∃ record, accepts record (ofQuery query) = true) ↔ query.Satisfiable := by
    simp only [accepts_ofQuery_iff, exists_combines_iff]
  refine ⟨found, accepts_of_isNever, ?_⟩
  intro combined
  rw [isNever_ofQuery_iff combined, ← found]
  simp

/-- Nothing is left where what is taken away stands inside what is asked for, yet the filter is not `never`. -/
example :
    let query : Query := ⟨"java-av", "java", some "av", .difference⟩
    (ofQuery query).isNever = false ∧ ¬ query.Satisfiable := by
  decide +kernel

end Filter
end BookSearch
