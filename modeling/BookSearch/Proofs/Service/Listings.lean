import Mathlib.Data.List.Nodup
import BookSearch.Proofs.Catalogue.InsertionOrder
import BookSearch.Proofs.Service.PopularityHidden

/-!
Listings and what stands behind them. Every listed book is found again by its id, as it was listed, and no
book is listed twice, neither on one page nor on different ones.
-/
namespace BookSearch

/-- Nothing that is said by both is said differently. -/
structure BookSummary.AgreesWith (summary : BookSummary) (detail : BookDetail) : Prop where
  id : summary.id = detail.id
  title : summary.title = detail.title
  subtitle : summary.subtitle = detail.subtitle
  image : summary.image = detail.image
  author : summary.author = detail.author
  isbn : summary.isbn = detail.isbn
  published : summary.published = detail.published

def BookSummary.OpensIn (summary : BookSummary) (service : Service) (query : Query) : Prop :=
  ∃ book, service.store.get? summary.id = .ok (some book) ∧ service.detail summary.id = .ok book.toDetail ∧
    summary.AgreesWith book.toDetail ∧ (Filter.ofQuery query).accepts book.toRecord = true

def SearchRequest.onPage (request : SearchRequest) (page : UInt32) : SearchRequest := { request with page }

theorem Book.summary_agrees (book : Book) : book.toSummary.AgreesWith book.toDetail := by
  constructor
  all_goals rfl

theorem Catalogue.isbns_matching (catalogue : Catalogue) (filter : Filter) :
    ((catalogue.matching filter).map Book.isbn).Nodup := by
  rw [matching_eq_filter]
  exact (List.filter_sublist.map Book.isbn).nodup catalogue.distinct

namespace Service

def listed (service : Service) (request : SearchRequest) : List BookSummary :=
  match (service.search request).1 with
  | .error _ => []
  | .ok outcome => outcome.response.books

def leafed (service : Service) (request : SearchRequest) : List UInt32 → List BookSummary
  | [] => []
  | page :: rest =>
    service.listed (request.onPage page) ++ (service.search (request.onPage page)).2.leafed request rest

variable {service : Service} {request : SearchRequest}

theorem search_ok {outcome : SearchOutcome} (answered : (service.search request).1 = .ok outcome) :
    ∃ granted query, service.pageRequest request = .ok granted ∧
      Query.parse request.mode request.text = .ok query ∧ service.store.outage = none ∧
      outcome.response = response query granted
        (Page.cut (service.store.catalogue.matching (Filter.ofQuery query)) granted) := by
  have ends := service.searchIn_ends service.store.records request
  rw [search] at answered
  generalize service.searchIn service.store.records request = result at ends answered
  cases ends with
  | misplaced => contradiction
  | unread => contradiction
  | asked _ page read =>
    cases outage : service.store.outage with
    | some text => simp [Store.records, Store.find, Store.whenUp, outage, Except.map] at answered
    | none =>
      simp only [Store.records, Store.find, Store.whenUp, outage, Except.map, Except.ok.injEq] at answered
      exact ⟨_, _, page, read, rfl, answered ▸ rfl⟩

theorem listed_ids_cut (service : Service) (request : SearchRequest) :
    (service.listed request).map BookSummary.id = [] ∨
      ∃ granted query, service.pageRequest request = .ok granted ∧
        Query.parse request.mode request.text = .ok query ∧
        (service.listed request).map BookSummary.id = (Page.cut
          ((service.store.catalogue.matching (Filter.ofQuery query)).map Book.isbn) granted).items := by
  cases answered : (service.search request).1 with
  | error failure =>
    left
    rw [listed, answered, List.map_nil]
  | ok outcome =>
    obtain ⟨granted, query, page, read, _, shown⟩ := search_ok answered
    refine Or.inr ⟨granted, query, page, read, ?_⟩
    rw [listed, answered, Page.cut_map]
    simp only [shown, response, List.map_map]
    rfl

theorem listed_ids_nodup (service : Service) (request : SearchRequest) :
    ((service.listed request).map BookSummary.id).Nodup := by
  rcases service.listed_ids_cut request with none | ⟨granted, query, _, _, ids⟩
  · rw [none]
    exact List.nodup_nil
  · rw [ids]
    exact (Page.cut_sublist _ granted).nodup (Catalogue.isbns_matching _ _)

theorem listed_ids_disjoint (service : Service) (request : SearchRequest) {page other : UInt32}
    (apart : page ≠ other) :
    ((service.listed (request.onPage page)).map BookSummary.id).Disjoint
      ((service.listed (request.onPage other)).map BookSummary.id) := by
  rcases service.listed_ids_cut (request.onPage page) with none | ⟨granted, query, placed, read, ids⟩
  · rw [none]
    exact List.disjoint_nil_left _
  · rcases service.listed_ids_cut (request.onPage other) with none | ⟨granted', query', placed', read', ids'⟩
    · rw [none]
      exact List.disjoint_nil_right _
    · obtain ⟨number, size⟩ := PageRequest.number_size_of? placed
      obtain ⟨number', size'⟩ := PageRequest.number_size_of? placed'
      have same : query' = query := Except.ok.inj (read'.symm.trans read)
      rw [ids, ids', same]
      apply Page.cut_disjoint (Catalogue.isbns_matching _ _) (size.trans size'.symm)
      rw [number, number']
      exact apart

theorem listed_alike {one other : Service} (alike : one.SearchesAs other) (request : SearchRequest) :
    one.listed request = other.listed request := by
  have shown := searchIn_response alike one.store.records request
  rw [listed, listed, search, search, ← alike.store]
  cases here : (one.searchIn one.store.records request).1 with
  | error failure =>
    cases there : (other.searchIn one.store.records request).1 with
    | error failure' => rfl
    | ok outcome => simp [here, there, Except.map] at shown
  | ok outcome =>
    cases there : (other.searchIn one.store.records request).1 with
    | error failure => simp [here, there, Except.map] at shown
    | ok outcome' =>
      simp only [here, there, Except.map, Except.ok.injEq] at shown
      simp only [shown]

theorem leafed_eq_flatMap {one other : Service} (alike : one.SearchesAs other) (request : SearchRequest)
    (pages : List UInt32) :
    one.leafed request pages = pages.flatMap fun page => other.listed (request.onPage page) := by
  induction pages generalizing one with
  | nil => rfl
  | cons page rest ih =>
    have after := (one.searchIn_searches_as one.store.records (request.onPage page)).trans alike
    rw [leafed, List.flatMap_cons, listed_alike alike, ← ih after]
    rfl

theorem leafed_ids_nodup (service : Service) (request : SearchRequest) {pages : List UInt32}
    (distinct : pages.Nodup) : ((service.leafed request pages).map BookSummary.id).Nodup := by
  rw [leafed_eq_flatMap ⟨rfl, rfl⟩, List.map_flatMap, List.nodup_flatMap]
  constructor
  · intro page _
    exact service.listed_ids_nodup (request.onPage page)
  · exact distinct.imp fun apart => service.listed_ids_disjoint request apart

theorem listed_opens {outcome : SearchOutcome} (answered : (service.search request).1 = .ok outcome) :
    ∃ query, Query.parse request.mode request.text = .ok query ∧
      ∀ summary ∈ outcome.response.books, summary.OpensIn (service.search request).2 query := by
  obtain ⟨granted, query, _, read, up, shown⟩ := search_ok answered
  refine ⟨query, read, ?_⟩
  intro summary member
  rw [shown, response] at member
  obtain ⟨book, onPage, rfl⟩ := List.mem_map.mp member
  have wanted := (Page.cut_sublist _ granted).subset onPage
  rw [matching_eq_filter, List.mem_filter] at wanted
  have stored : (service.search request).2.store.get? book.isbn = .ok (some book) := by
    rw [search, (service.searchIn_searches_as _ request).store, Store.get?, Store.whenUp, up,
      ← service.store.catalogue.get?_of_stored wanted.1]
  exact ⟨book, stored, Store.detail_of_found stored, book.summary_agrees, wanted.2⟩

/-- Whichever books were put in and in whichever order, the ids of a listing differ and lead to the books that
were listed, and leafing through the pages of a search shows no id twice. -/
theorem listed_books_open (service : Service) (request : SearchRequest) :
    (service.search request).2.store = service.store ∧
      (∀ outcome, (service.search request).1 = .ok outcome →
        (outcome.response.books.map BookSummary.id).Nodup ∧
          ∃ query, Query.parse request.mode request.text = .ok query ∧
            ∀ summary ∈ outcome.response.books, summary.OpensIn (service.search request).2 query) ∧
      ∀ pages : List UInt32, pages.Nodup → ((service.leafed request pages).map BookSummary.id).Nodup := by
  refine ⟨(service.searchIn_searches_as _ request).store, ?_, ?_⟩
  · intro outcome answered
    have once := service.listed_ids_nodup request
    rw [listed, answered] at once
    exact ⟨once, listed_opens answered⟩
  · intro pages distinct
    exact service.leafed_ids_nodup request distinct

theorem replaced_book_opens :
    let service := holding
      [{ isbn := "1", title := "Java", author := "Α" }, { isbn := "", title := "rusty", author := "Β" },
        { isbn := "1", title := "Go", subtitle := some "no RUST", author := "Γ" }]
      ⟨.memory, Counter.empty⟩ Config.standard
    let request : SearchRequest := ⟨.operators, some " Rust|go", 2, some 1⟩
    (∃ outcome query, (service.search request).1 = .ok outcome ∧
      outcome.response.books.map BookSummary.id = [""] ∧
        ∀ summary ∈ outcome.response.books, summary.OpensIn (service.search request).2 query) ∧
      [2, 0, 1].Nodup ∧ ((service.leafed request [2, 0, 1]).map BookSummary.id).Nodup := by
  intro service request
  obtain ⟨-, opens, once⟩ := listed_books_open service request
  have second : (service.listed request).map BookSummary.id = [""] := by decide +kernel
  refine ⟨?_, by decide, once [2, 0, 1] (by decide)⟩
  cases answered : (service.search request).1 with
  | error failure =>
    rw [listed, answered] at second
    contradiction
  | ok outcome =>
    obtain ⟨_, query, _, opens⟩ := opens outcome answered
    rw [listed, answered] at second
    exact ⟨outcome, query, rfl, second, opens⟩

end Service
end BookSearch
