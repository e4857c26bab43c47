import BookSearch.Proofs.Filter.QueryMeaning
import BookSearch.Proofs.Query.OperatorGrammar
import BookSearch.Proofs.Text.SigmaEdges

/-!
Whether a literal search finds what a field shows character for character. Keyword and field are
lowercased apart, so a keyword with a Σ at one of its edges can stand in a field and not be found there.
-/
namespace BookSearch

/-- The text stands in a field, character for character. -/
def Record.Shows (record : Record) (text : String) : Prop :=
  ∃ field value, record field = some value ∧ text.toList <:+: value.toList

structure FindsVerbatim (query : Query) (text : String) : Prop where
  accepted : ∀ record : Record, record.Shows text → Filter.accepts record (Filter.ofQuery query) = true
  listed : ∀ (catalogue : Catalogue), ∀ book ∈ catalogue.books, book.toRecord.Shows text →
    book ∈ catalogue.matching (Filter.ofQuery query)

theorem hit_lower (record : Record) (term : String) :
    Record.Hit record (Text.lower term) ↔ Record.Hit record term := by
  unfold Record.Hit
  rw [Text.lower_lower]

theorem literal_accepts_iff {keyword : String} (written : Text.NonBlank keyword) (record : Record) :
    Filter.accepts record (Filter.ofQuery (Query.single (Text.lower (Text.trim keyword)))) = true ↔
      Record.Hit record (Text.trim keyword) := by
  rw [Filter.accepts_ofQuery, Query.Combines, Query.single, Filter.accepted_ofTerm, hit_lower]
  exact and_iff_right ((Text.nonBlank_lower_trim_iff keyword).mpr written)

theorem hit_of_surroundings {record : Record} {field : Field} {value term : String}
    {before after : List Char} (there : record field = some value)
    (split : value.toList = before ++ term.toList ++ after)
    (frontKept : ¬ Chars.ClosesAtFront before.reverse term.toList after)
    (backKept : ¬ Chars.OpensAtBack term.toList after) : Record.Hit record term := by
  refine ⟨field, ?_⟩
  rw [there, Option.getD_some, Text.toList_lower, Text.toList_lower, split]
  exact Chars.infix_lower_around (Chars.lowerBetween_eq_lower frontKept backKept)

theorem hit_of_shows {record : Record} {term : String} (plain : ¬ Chars.SigmaAtEdge term.toList)
    (shown : record.Shows term) : Record.Hit record term := by
  obtain ⟨field, value, there, before, after, split⟩ := shown
  apply hit_of_surroundings there split.symm
  · intro closes
    exact plain (Chars.edge_of_closes closes)
  · intro opens
    exact plain (Chars.edge_of_opens opens)

theorem titled_shows {title text : String} (inside : text.toList <:+: title.toList) :
    (Record.titled title).Shows text :=
  ⟨.title, title, rfl, inside⟩

theorem exists_missed {keyword : String} (written : Text.NonBlank keyword)
    (edge : Chars.SigmaAtEdge (Text.trim keyword).toList) :
    ∃ record : Record, record.Shows (Text.trim keyword) ∧ ¬ Record.Hit record (Text.trim keyword) := by
  obtain ⟨before, after, hidden⟩ := Chars.edge_hides edge
  refine ⟨Record.titled (String.ofList (before ++ (Text.trim keyword).toList ++ after)), ?_, ?_⟩
  · apply titled_shows
    rw [String.toList_ofList]
    exact List.infix_append _ _ _
  · intro hit
    have present : Chars.lower (Text.trim keyword).toList ≠ [] := by
      rw [Text.toList_trim, Ne, Chars.lower_trim_eq_nil_iff, ← Text.not_nonBlank_iff]
      exact not_not_intro written
    have inside := titled_hit present hit
    rw [String.toList_ofList] at inside
    exact hidden inside

/-- A literal search finds a keyword wherever it stands, unless what surrounds it turns a Σ at its edge;
and there are such surroundings just for the keywords that have a Σ there. -/
theorem literal_finds_verbatim_iff (keyword : String) (written : Text.NonBlank keyword) :
    ∃ query, Query.parse .literal (some keyword) = .ok query ∧
      (∀ (record : Record) (field : Field) (value : String) (before after : List Char),
        record field = some value → value.toList = before ++ (Text.trim keyword).toList ++ after →
        ¬ Chars.ClosesAtFront before.reverse (Text.trim keyword).toList after →
        ¬ Chars.OpensAtBack (Text.trim keyword).toList after →
        Filter.accepts record (Filter.ofQuery query) = true) ∧
      (FindsVerbatim query (Text.trim keyword) ↔ ¬ Chars.SigmaAtEdge (Text.trim keyword).toList) := by
  refine ⟨_, Query.parse_literal_written written, ?_, ?_⟩
  · intro record field value before after there split frontKept backKept
    rw [literal_accepts_iff written]
    exact hit_of_surroundings there split frontKept backKept
  · constructor
    · intro finds edge
      obtain ⟨record, shown, missed⟩ := exists_missed written edge
      exact missed ((literal_accepts_iff written record).mp (finds.accepted record shown))
    · intro plain
      have accepted : ∀ record : Record, record.Shows (Text.trim keyword) →
          Filter.accepts record (Filter.ofQuery (Query.single (Text.lower (Text.trim keyword)))) = true := by
        intro record shown
        rw [literal_accepts_iff written]
        exact hit_of_shows plain shown
      refine ⟨accepted, ?_⟩
      intro catalogue book stored shown
      rw [matching_eq_filter]
      exact List.mem_filter.mpr ⟨stored, accepted book.toRecord shown⟩

theorem inner_sigmas_found :
    Text.NonBlank " ΣΑΣ!" ∧ ∃ query, Query.parse .literal (some " ΣΑΣ!") = .ok query ∧
      FindsVerbatim query "ΣΑΣ!" := by
  have written : Text.NonBlank " ΣΑΣ!" := ⟨'Α', by decide, by decide⟩
  obtain ⟨query, parsed, _, finds⟩ := literal_finds_verbatim_iff " ΣΑΣ!" written
  have trimmed : Text.trim " ΣΑΣ!" = "ΣΑΣ!" := by decide
  rw [trimmed] at finds
  exact ⟨written, query, parsed, finds.mpr (by decide +kernel)⟩

/-- The keyword ends a word on its own and not in the title, where it is an ordinary letter. -/
theorem word_final_sigma_missed :
    Text.NonBlank "ΑΣ" ∧ (Record.titled "ΑΣΑ").Shows (Text.trim "ΑΣ") ∧
      ∃ query, Query.parse .literal (some "ΑΣ") = .ok query ∧
        Filter.accepts (Record.titled "ΑΣΑ") (Filter.ofQuery query) = false := by
  have written : Text.NonBlank "ΑΣ" := ⟨'Α', by decide, by decide⟩
  have trimmed : Text.trim "ΑΣ" = "ΑΣ" := by decide
  refine ⟨written, titled_shows ?_, _, Query.parse_literal_written written, by decide +kernel⟩
  rw [trimmed]
  exact ⟨[], ['Α'], by decide⟩

end BookSearch
