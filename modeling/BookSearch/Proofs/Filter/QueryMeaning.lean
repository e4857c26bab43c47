import BookSearch.Catalogue
import BookSearch.Proofs.Text.Trimming

/-!
What a query asks of a record, said without filters, and that the filter of a query accepts just the
records that meet it. The parts of a query are arbitrary here: blank, untrimmed, or present where the
strategy has no use for them.
-/
namespace BookSearch

/-- The term's lowercase stands in the lowercase of a field; a field that is not there reads as the
empty text. -/
def Record.Hit (record : Record) (term : String) : Prop :=
  ∃ field, (Text.lower term).toList <:+: (Text.lower ((record field).getD "")).toList

theorem field_listed (field : Field) : field ∈ Field.all := by
  cases field <;> decide

instance (record : Record) (term : String) : Decidable (record.Hit term) :=
  decidable_of_iff
    ((Field.all.any fun field =>
      Text.occursIn (Text.lower term) (Text.lower ((record field).getD ""))) = true)
    (by simp [Record.Hit, Text.occursIn, Chars.occursIn_eq_true_iff, field_listed])

def Record.titled (title : String) : Record
  | .title => some title
  | _ => none

theorem titled_hit {title term : String} (written : Chars.lower term.toList ≠ [])
    (hit : Record.Hit (Record.titled title) term) :
    Chars.lower term.toList <:+: Chars.lower title.toList := by
  obtain ⟨field, inside⟩ := hit
  rw [Text.toList_lower, Text.toList_lower] at inside
  cases field with
  | title => exact inside
  | _ => exact absurd (List.infix_nil.mp inside) written

/-- How the terms of a query combine, whatever it takes to hit one of them. -/
def Query.Combines (query : Query) (hit : String → Prop) : Prop :=
  match query.strategy with
  | .simple => hit query.left
  | .union => hit query.left ∨ ∃ right ∈ query.right, hit right
  | .difference => hit query.left ∧ ¬ ∃ right ∈ query.right, hit right

instance (query : Query) (hit : String → Prop) [DecidablePred hit] : Decidable (query.Combines hit) :=
  match query with
  | ⟨_, left, _, .simple⟩ => inferInstanceAs (Decidable (hit left))
  | ⟨_, left, right, .union⟩ => inferInstanceAs (Decidable (hit left ∨ ∃ term ∈ right, hit term))
  | ⟨_, left, right, .difference⟩ => inferInstanceAs (Decidable (hit left ∧ ¬ ∃ term ∈ right, hit term))

theorem combines_congr {query : Query} {hit other : String → Prop}
    (left : hit query.left ↔ other query.left)
    (right : ∀ term ∈ query.right, (hit term ↔ other term)) :
    query.Combines hit ↔ query.Combines other := by
  have rights : (∃ term ∈ query.right, hit term) ↔ ∃ term ∈ query.right, other term := by
    constructor
    · intro some
      obtain ⟨term, given, found⟩ := some
      exact ⟨term, given, (right term given).mp found⟩
    · intro some
      obtain ⟨term, given, found⟩ := some
      exact ⟨term, given, (right term given).mpr found⟩
  unfold Query.Combines
  cases query.strategy with
  | simple => exact left
  | union => rw [left, rights]
  | difference => rw [left, rights]

namespace Filter

theorem valueContains_iff (value needle : String) :
    valueContains value needle = true ↔ needle.toList <:+: (Text.lower value).toList := by
  rw [valueContains]
  split
  · rename_i empty
    rw [String.isEmpty_iff] at empty
    subst empty
    have nothing : (Text.lower "").toList = [] := by rw [Text.toList_lower]; rfl
    rw [nothing, List.infix_nil, String.toList_eq_nil_iff, String.isEmpty_iff]
  · rw [Text.occursIn, Chars.occursIn_eq_true_iff]

theorem accepts_anyField (record : Record) (term : String) :
    accepts record (anyField term) = true ↔ Record.Hit record term := by
  rw [anyField, accepts, acceptsAny_eq, List.any_map, List.any_eq_true]
  constructor
  · intro listed
    obtain ⟨field, _, found⟩ := listed
    exact ⟨field, (valueContains_iff _ _).mp found⟩
  · intro found
    obtain ⟨field, found⟩ := found
    exact ⟨field, field_listed field, (valueContains_iff _ _).mpr found⟩

def Accepted (record : Record) (filter : Option Filter) : Prop :=
  ∃ inner, filter = some inner ∧ accepts record inner = true

theorem accepted_ofTerm (record : Record) (term : String) :
    Accepted record (ofTerm? term) ↔ Text.NonBlank term ∧ Record.Hit record term := by
  rw [ofTerm?, Text.nonBlank_iff]
  cases blank : Text.isBlank term with
  | true => simp [Accepted]
  | false => simp [Accepted, accepts_anyField]

theorem accepted_right (record : Record) (right : Option String) :
    Accepted record (right.bind ofTerm?) ↔ ∃ term ∈ right, Accepted record (ofTerm? term) := by
  cases right with
  | none => simp [Accepted]
  | some term => simp

theorem accepts_ofTerm (record : Record) (term : String) :
    accepts record (ofTerm term) = true ↔ Accepted record (ofTerm? term) := by
  rw [ofTerm]
  cases ofTerm? term with
  | none => simp [Accepted, accepts]
  | some inner => simp [Accepted]

theorem accepts_union (record : Record) (left : String) (right : Option String) :
    accepts record (union left right) = true ↔
      Accepted record (ofTerm? left) ∨ Accepted record (right.bind ofTerm?) := by
  rw [union]
  cases ofTerm? left with
  | none =>
    cases right.bind ofTerm? with
    | none => simp [Accepted, accepts]
    | some other => simp [Accepted]
  | some one =>
    cases right.bind ofTerm? with
    | none => simp [Accepted]
    | some other => simp [Accepted, accepts, acceptsAny]

theorem accepts_difference (record : Record) (left : String) (right : Option String) :
    accepts record (difference left right) = true ↔
      Accepted record (ofTerm? left) ∧ ¬ Accepted record (right.bind ofTerm?) := by
  rw [difference, ← accepts_ofTerm]
  cases right.bind ofTerm? with
  | none => simp [Accepted]
  | some excluded => simp [Accepted, accepts, acceptsAll]

theorem accepts_ofQuery (query : Query) (record : Record) :
    accepts record (ofQuery query) = true ↔
      query.Combines fun term => Accepted record (ofTerm? term) := by
  rw [ofQuery, Query.Combines]
  cases query.strategy with
  | simple => exact accepts_ofTerm record query.left
  | union => rw [accepts_union, accepted_right]
  | difference => rw [accepts_difference, accepted_right]

/-- The filter of a query accepts the records that the query asks for. A blank term hits nothing. -/
theorem accepts_ofQuery_iff (query : Query) (record : Record) :
    accepts record (ofQuery query) = true ↔
      query.Combines fun term => Text.NonBlank term ∧ Record.Hit record term := by
  rw [accepts_ofQuery]
  simp only [accepted_ofTerm]

end Filter

theorem matching_eq_filter (catalogue : Catalogue) (filter : Filter) :
    catalogue.matching filter = catalogue.books.filter fun book => filter.accepts book.toRecord := by
  unfold Catalogue.matching
  cases filter with
  | never => exact (List.filter_eq_nil_iff.mpr (by simp [Filter.accepts])).symm
  | _ => rfl

end BookSearch
