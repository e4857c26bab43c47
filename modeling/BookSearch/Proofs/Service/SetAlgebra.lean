import Mathlib.Data.List.Basic
import BookSearch.Proofs.Service.SearchAnswers

/-!
Operators as operations on sets of books. What `a|b` finds is what `a-b` finds together with what `b` finds,
`a-b` finds what `a` finds and `b` does not, and the order of the two sides of `|` cannot be seen in an answer.
-/
namespace BookSearch

structure Text.IsTerm (t : String) : Prop where
  written : NonBlank t
  plain : '|' ∉ t.toList ∧ '-' ∉ t.toList

def Catalogue.found (catalogue : Catalogue) (text : String) : List Book :=
  match Query.parse .operators (some text) with
  | .error _ => []
  | .ok query => catalogue.matching (Filter.ofQuery query)

def Book.foundBy (book : Book) (t : String) : Bool :=
  decide (book.Hit (Text.lower (Text.trim t)))

def SearchRequest.forText (text : String) (page : UInt32) (size : Option UInt32) : SearchRequest :=
  ⟨.operators, some text, page, size⟩

def Service.searchFor (service : Service) (text : String) (page : UInt32) (size : Option UInt32) :
    Except Failure SearchResponse :=
  (service.search (.forText text page size)).1.map SearchOutcome.response

structure Service.SetAlgebra (service : Service) (a b : String) : Prop where
  pages : ∀ text ∈ [a ++ "|" ++ b, b ++ "|" ++ a, a ++ "-" ++ b, a ++ "-" ++ a, a, b], ∀ page size,
    ¬ (SearchRequest.forText text page size).Misplaced service.config →
      ∃ response, service.searchFor text page size = .ok response ∧
        response.ShowsPage (service.store.catalogue.found text) page
          (size.getD service.config.search.defaultPageSize)
  merged : service.store.catalogue.found (a ++ "|" ++ b) = service.store.catalogue.books.filter fun book =>
    book ∈ service.store.catalogue.found (a ++ "-" ++ b) ∨ book ∈ service.store.catalogue.found b
  disjoint : (service.store.catalogue.found (a ++ "-" ++ b)).Disjoint (service.store.catalogue.found b)
  together : (service.store.catalogue.found (a ++ "|" ++ b)).Perm
    (service.store.catalogue.found (a ++ "-" ++ b) ++ service.store.catalogue.found b)
  totals : ∀ page size either without second, service.searchFor (a ++ "|" ++ b) page size = .ok either →
    service.searchFor (a ++ "-" ++ b) page size = .ok without →
      service.searchFor b page size = .ok second →
        either.pageInfo.totalElements = without.pageInfo.totalElements + second.pageInfo.totalElements
  swapped : ∀ page size,
    (service.searchFor (a ++ "|" ++ b) page size).map (fun response => (response.books, response.pageInfo)) =
      (service.searchFor (b ++ "|" ++ a) page size).map fun response => (response.books, response.pageInfo)
  difference : service.store.catalogue.found (a ++ "-" ++ b) =
    (service.store.catalogue.found a).filter fun book => book ∉ service.store.catalogue.found b
  nothing : service.store.catalogue.found (a ++ "-" ++ a) = []

theorem parse_term {t : String} (isTerm : Text.IsTerm t) :
    Query.parse .operators (some t) = .ok (Query.single (Text.lower (Text.trim t))) :=
  OperatorReading.parse_of_reading (.simple isTerm.written isTerm.plain.1 isTerm.plain.2)

theorem parse_terms {a b : String} {c : Char} {strategy : Strategy} {refusal : QueryError}
    (operates : Operates c strategy refusal) (left : Text.IsTerm a) (right : Text.IsTerm b) :
    ∃ normalized, Query.parse .operators (some (a ++ String.singleton c ++ b)) =
      .ok ⟨normalized, Text.lower (Text.trim a), some (Text.lower (Text.trim b)), strategy⟩ :=
  ⟨_, OperatorReading.parse_of_reading
    (.pair operates left.written right.written left.plain right.plain)⟩

namespace Catalogue

variable (catalogue : Catalogue) {a b : String}

theorem found_read {text : String} {query : Query} (read : Query.parse .operators (some text) = .ok query) :
    catalogue.found text = catalogue.books.filter fun book => query.Combines book.Hit := by
  obtain ⟨left, right⟩ := terms_written read
  rw [found, read]
  exact matching_of_written left right catalogue

theorem found_term (isTerm : Text.IsTerm a) :
    catalogue.found a = catalogue.books.filter fun book => book.foundBy a := by
  rw [catalogue.found_read (parse_term isTerm)]
  rfl

theorem found_union (left : Text.IsTerm a) (right : Text.IsTerm b) :
    catalogue.found (a ++ "|" ++ b) = catalogue.books.filter fun book => book.foundBy a || book.foundBy b := by
  obtain ⟨normalized, read⟩ := parse_terms .union left right
  rw [show a ++ "|" ++ b = a ++ String.singleton '|' ++ b from rfl, catalogue.found_read read]
  apply List.filter_congr
  intro book _
  simp [Query.Combines, Book.foundBy]

theorem found_difference (left : Text.IsTerm a) (right : Text.IsTerm b) :
    catalogue.found (a ++ "-" ++ b) = catalogue.books.filter fun book => book.foundBy a && !book.foundBy b := by
  obtain ⟨normalized, read⟩ := parse_terms .difference left right
  rw [show a ++ "-" ++ b = a ++ String.singleton '-' ++ b from rfl, catalogue.found_read read]
  apply List.filter_congr
  intro book _
  simp [Query.Combines, Book.foundBy]

theorem union_merged (left : Text.IsTerm a) (right : Text.IsTerm b) :
    catalogue.found (a ++ "|" ++ b) = catalogue.books.filter fun book =>
      book ∈ catalogue.found (a ++ "-" ++ b) ∨ book ∈ catalogue.found b := by
  rw [catalogue.found_union left right, catalogue.found_difference left right, catalogue.found_term right]
  apply List.filter_congr
  intro book stored
  cases one : book.foundBy a <;> cases other : book.foundBy b <;> simp [stored, one, other]

theorem difference_disjoint (left : Text.IsTerm a) (right : Text.IsTerm b) :
    (catalogue.found (a ++ "-" ++ b)).Disjoint (catalogue.found b) := by
  rw [catalogue.found_difference left right, catalogue.found_term right]
  intro book without second
  simp only [List.mem_filter, Bool.and_eq_true, Bool.not_eq_true'] at without second
  rw [second.2] at without
  exact absurd without.2.2 (by decide)

theorem union_perm (left : Text.IsTerm a) (right : Text.IsTerm b) :
    (catalogue.found (a ++ "|" ++ b)).Perm (catalogue.found (a ++ "-" ++ b) ++ catalogue.found b) := by
  rw [catalogue.found_union left right, catalogue.found_difference left right, catalogue.found_term right]
  -- the union falls apart into the books that `b` does not find and those that it finds
  have parts := List.filter_append_perm (fun book => !Book.foundBy book b)
    (catalogue.books.filter fun book => book.foundBy a || book.foundBy b)
  rw [List.filter_filter, List.filter_filter] at parts
  refine parts.symm.trans (List.Perm.append (.of_eq ?_) (.of_eq ?_))
  · apply List.filter_congr
    intro book _
    cases book.foundBy a <;> cases book.foundBy b <;> rfl
  · apply List.filter_congr
    intro book _
    cases book.foundBy a <;> cases book.foundBy b <;> rfl

theorem difference_eq_filter (left : Text.IsTerm a) (right : Text.IsTerm b) :
    catalogue.found (a ++ "-" ++ b) =
      (catalogue.found a).filter fun book => book ∉ catalogue.found b := by
  rw [catalogue.found_difference left right, catalogue.found_term left, catalogue.found_term right,
    List.filter_filter]
  apply List.filter_congr
  intro book stored
  cases one : book.foundBy a <;> cases other : book.foundBy b <;> simp [stored, other]

theorem difference_self (isTerm : Text.IsTerm a) : catalogue.found (a ++ "-" ++ a) = [] := by
  rw [catalogue.found_difference isTerm isTerm, List.filter_eq_nil_iff]
  intro book _
  cases book.foundBy a <;> decide

theorem union_swapped (left : Text.IsTerm a) (right : Text.IsTerm b) :
    catalogue.found (a ++ "|" ++ b) = catalogue.found (b ++ "|" ++ a) := by
  rw [catalogue.found_union left right, catalogue.found_union right left]
  apply List.filter_congr
  intro book _
  exact Bool.or_comm _ _

end Catalogue

namespace Service

variable (books : List Book) (board : Scoreboard) (config : Config) {text : String} {query : Query}

theorem searchFor_read (read : Query.parse .operators (some text) = .ok query) (page : UInt32)
    (size : Option UInt32) :
    (holding books board config).searchFor text page size =
      match (holding books board config).pageRequest (.forText text page size) with
      | .error refusal => .error refusal.toFailure
      | .ok granted => .ok (response query granted (Page.cut ((Catalogue.ofBooks books).found text) granted)) := by
  rw [searchFor, search, searchIn]
  cases (holding books board config).pageRequest (.forText text page size) with
  | error refusal => rfl
  | ok granted =>
    have found : (Catalogue.ofBooks books).found text =
        (Catalogue.ofBooks books).matching (Filter.ofQuery query) := by
      rw [Catalogue.found, read]
    have again : Query.parse (SearchRequest.forText text page size).mode
        (SearchRequest.forText text page size).text = .ok query := read
    simp only [again, found]
    rfl

theorem searchFor_shows_page (read : Query.parse .operators (some text) = .ok query) {page : UInt32}
    {size : Option UInt32} (placed : ¬ (SearchRequest.forText text page size).Misplaced config) :
    ∃ response, (holding books board config).searchFor text page size = .ok response ∧
      response.ShowsPage ((Catalogue.ofBooks books).found text) page
        (size.getD config.search.defaultPageSize) := by
  obtain ⟨granted, page', number, size'⟩ := (holding books board config).pageRequest_placed placed
  refine ⟨_, by rw [searchFor_read books board config read, page'], ?_⟩
  have shows := response_shows_page query granted ((Catalogue.ofBooks books).found text)
  rw [number, size'] at shows
  exact shows

theorem searchFor_total (read : Query.parse .operators (some text) = .ok query) {page : UInt32}
    {size : Option UInt32} {answer : SearchResponse}
    (answered : (holding books board config).searchFor text page size = .ok answer) :
    answer.pageInfo.totalElements = UInt64.ofNat ((Catalogue.ofBooks books).found text).length := by
  rw [searchFor_read books board config read] at answered
  split at answered
  · contradiction
  · cases answered
    rfl

theorem searchFor_listing_congr {other : String} {query' : Query}
    (read : Query.parse .operators (some text) = .ok query)
    (read' : Query.parse .operators (some other) = .ok query')
    (same : (Catalogue.ofBooks books).found text = (Catalogue.ofBooks books).found other) (page : UInt32)
    (size : Option UInt32) :
    ((holding books board config).searchFor text page size).map
        (fun response => (response.books, response.pageInfo)) =
      ((holding books board config).searchFor other page size).map
        fun response => (response.books, response.pageInfo) := by
  have page' : (holding books board config).pageRequest (.forText other page size) =
      (holding books board config).pageRequest (.forText text page size) := rfl
  rw [searchFor_read books board config read, searchFor_read books board config read', same, page']
  cases (holding books board config).pageRequest (.forText text page size) with
  | error refusal => rfl
  | ok granted => rfl

variable {a b : String}

theorem combination_read (left : Text.IsTerm a) (right : Text.IsTerm b) :
    ∀ text ∈ [a ++ "|" ++ b, b ++ "|" ++ a, a ++ "-" ++ b, a ++ "-" ++ a, a, b],
      ∃ query, Query.parse .operators (some text) = .ok query := by
  have union : ∀ {x y : String}, Text.IsTerm x → Text.IsTerm y →
      ∃ query, Query.parse .operators (some (x ++ "|" ++ y)) = .ok query := by
    intro x y first second
    obtain ⟨normalized, read⟩ := parse_terms .union first second
    exact ⟨_, read⟩
  have difference : ∀ {x y : String}, Text.IsTerm x → Text.IsTerm y →
      ∃ query, Query.parse .operators (some (x ++ "-" ++ y)) = .ok query := by
    intro x y first second
    obtain ⟨normalized, read⟩ := parse_terms .difference first second
    exact ⟨_, read⟩
  simp only [List.forall_mem_cons]
  exact ⟨union left right, union right left, difference left right, difference left left,
    ⟨_, parse_term left⟩, ⟨_, parse_term right⟩, by simp⟩

/-- In every catalogue, two terms and their combinations are found as the operators on sets would have it. -/
theorem operators_are_set_operations (left : Text.IsTerm a) (right : Text.IsTerm b) :
    (holding books board config).SetAlgebra a b := by
  have read := combination_read left right
  obtain ⟨union, unionRead⟩ := read (a ++ "|" ++ b) (by simp)
  obtain ⟨swapped, swappedRead⟩ := read (b ++ "|" ++ a) (by simp)
  obtain ⟨difference, differenceRead⟩ := read (a ++ "-" ++ b) (by simp)
  constructor
  · intro text member page size placed
    obtain ⟨query, textRead⟩ := read text member
    exact searchFor_shows_page books board config textRead placed
  · exact (Catalogue.ofBooks books).union_merged left right
  · exact (Catalogue.ofBooks books).difference_disjoint left right
  · exact (Catalogue.ofBooks books).union_perm left right
  · intro page size either without second eitherGiven withoutGiven secondGiven
    have lengths := ((Catalogue.ofBooks books).union_perm left right).length_eq
    rw [searchFor_total books board config unionRead eitherGiven,
      searchFor_total books board config differenceRead withoutGiven,
      searchFor_total books board config (parse_term right) secondGiven, lengths, List.length_append,
      UInt64.ofNat_add]
  · exact searchFor_listing_congr books board config unionRead swappedRead
      ((Catalogue.ofBooks books).union_swapped left right)
  · exact (Catalogue.ofBooks books).difference_eq_filter left right
  · exact (Catalogue.ofBooks books).difference_self left

theorem sigma_term_combines :
    let service := holding
      [{ isbn := "1", title := "ΟΔΟΣ Java", author := "Α" }, { isbn := "2", title := "ὁ οδος", author := "Β" },
        { isbn := "3", title := "java", author := "Γ" }]
      ⟨.memory, Counter.empty⟩ Config.standard
    Text.IsTerm " ΟΔΟΣ" ∧ Text.IsTerm "JAVA\t" ∧ service.SetAlgebra " ΟΔΟΣ" "JAVA\t" ∧
      (service.store.catalogue.found " ΟΔΟΣ|JAVA\t").map Book.isbn = ["1", "2", "3"] ∧
      (service.store.catalogue.found " ΟΔΟΣ-JAVA\t").map Book.isbn = ["2"] := by
  intro service
  have left : Text.IsTerm " ΟΔΟΣ" := ⟨(Text.nonBlank_iff _).mpr (by decide +kernel), by decide +kernel⟩
  have right : Text.IsTerm "JAVA\t" := ⟨(Text.nonBlank_iff _).mpr (by decide +kernel), by decide +kernel⟩
  exact ⟨left, right, operators_are_set_operations _ _ _ left right, by decide +kernel, by decide +kernel⟩

end Service
end BookSearch
