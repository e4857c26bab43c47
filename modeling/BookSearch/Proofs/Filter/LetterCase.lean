import BookSearch.Proofs.Filter.QueryMeaning
import BookSearch.Proofs.Query.OperatorGrammar
import BookSearch.Proofs.Text.LetterCase

/-!
Case does not matter, neither in what is typed nor in what is searched. All that reading a text and trying
a filter use of a text is its lowercase, and texts that differ in the case of ASCII letters have the same.
-/
namespace BookSearch

def Record.SameButCase (record other : Record) : Prop :=
  ∀ field, Text.SameButCase ((record field).getD "") ((other field).getD "")

def Record.lower (record : Record) : Record := fun field => (record field).map Text.lower

theorem Record.lower_value (record : Record) (field : Field) :
    Text.lower ((record.lower field).getD "") = Text.lower ((record field).getD "") := by
  unfold Record.lower
  cases record field with
  | none => rfl
  | some value => exact Text.lower_lower value

theorem normalize_congr {raw other : String} (same : Text.lower raw = Text.lower other) :
    normalize (some raw) = normalize (some other) := by
  have alike : Text.NonBlank raw ↔ Text.NonBlank other := by
    rw [← Text.nonBlank_lower_iff, same, Text.nonBlank_lower_iff]
  by_cases written : Text.NonBlank raw
  · have trimmed : Text.lower (Text.trim raw) = Text.lower (Text.trim other) := by
      apply String.toList_injective
      simp only [Text.toList_lower, Text.toList_trim, Chars.lower_trim]
      rw [← Text.toList_lower, ← Text.toList_lower, same]
    rw [Query.normalize_written written, Query.normalize_written (alike.mp written), trimmed]
  · have blank := mt alike.mpr written
    simp [normalize, (Text.trim_isEmpty_iff _).mpr written, (Text.trim_isEmpty_iff _).mpr blank]

theorem Query.parse_congr {raw other : String} (same : Text.lower raw = Text.lower other) (mode : Mode) :
    parse mode (some raw) = parse mode (some other) := by
  rw [parse, parse, normalize_congr same]

namespace Filter

theorem valueContains_congr {value other : String} (same : Text.lower value = Text.lower other)
    (needle : String) : valueContains value needle = valueContains other needle := by
  rw [Bool.eq_iff_iff, valueContains_iff, valueContains_iff, same]

theorem accepts_congr {record other : Record}
    (same : ∀ field, Text.lower ((record field).getD "") = Text.lower ((other field).getD ""))
    (filter : Filter) : accepts record filter = accepts other filter := by
  induction filter using parts_induction with
  | always => rfl
  | never => rfl
  | contains field needle => exact valueContains_congr (same field) needle
  | negation inner ih => rw [accepts, accepts, ih]
  | all parts ih =>
    unfold accepts
    exact acceptsAll_congr (List.map_congr_left ih)
  | any parts ih =>
    unfold accepts
    exact acceptsAny_congr (List.map_congr_left ih)

end Filter

/-- Texts that differ only in the case of ASCII letters are read alike and such records are accepted alike,
and so are any text and any record and their lowercase. -/
theorem case_never_matters (raw other : Option String) (record twin : Record)
    (texts : Option.Rel Text.SameButCase raw other) (records : record.SameButCase twin) :
    (∀ mode, Query.parse mode raw = Query.parse mode other) ∧
      (∀ filter, Filter.accepts record filter = Filter.accepts twin filter) ∧
      (∀ mode (text : Option String), Query.parse mode (text.map Text.lower) = Query.parse mode text) ∧
      ∀ (filter : Filter) (any : Record), Filter.accepts any.lower filter = Filter.accepts any filter := by
  refine ⟨?_, ?_, ?_, ?_⟩
  · intro mode
    cases texts with
    | none => rfl
    | some same => exact Query.parse_congr same.lower_eq mode
  · exact Filter.accepts_congr fun field => (records field).lower_eq
  · intro mode text
    cases text with
    | none => rfl
    | some text => exact Query.parse_congr (Text.lower_lower text) mode
  · intro filter any
    exact Filter.accepts_congr any.lower_value filter

/-- The capital in front of the sigma makes it the last letter of a word just as the small letter does. -/
theorem capital_before_sigma :
    Text.SameButCase "aΣ|B" "AΣ|b" ∧ (Record.titled "aΣ").SameButCase (Record.titled "AΣ") ∧
      Query.parse .operators (some "aΣ|B") = .ok ⟨"aς|b", "aς", some "b", .union⟩ ∧
      ∀ filter, Filter.accepts (Record.titled "aΣ") filter = Filter.accepts (Record.titled "AΣ") filter := by
  have texts : Text.SameButCase "aΣ|B" "AΣ|b" := by unfold Text.SameButCase; decide
  have records : (Record.titled "aΣ").SameButCase (Record.titled "AΣ") := by
    intro field
    cases field <;> unfold Text.SameButCase <;> decide
  have parsed : Query.parse .operators (some "AΣ|b") = .ok ⟨"aς|b", "aς", some "b", .union⟩ := by rfl
  have alike := case_never_matters (some "aΣ|B") (some "AΣ|b") _ _ (.some texts) records
  exact ⟨texts, records, (alike.1 .operators).trans parsed, alike.2.1⟩

end BookSearch
