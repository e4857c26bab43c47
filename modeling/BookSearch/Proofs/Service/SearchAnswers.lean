import BookSearch.Proofs.Catalogue.InsertionOrder
import BookSearch.Proofs.Query.OperatorGrammar
import BookSearch.Service

/-!
What a search answers, from the books that were stored to the page that is shown: when it refuses the page,
when it refuses the query, and else which books stand on the page and what the totals are.
-/
namespace BookSearch

def Service.holding (books : List Book) (board : Scoreboard) (config : Config) : Service :=
  ⟨⟨Catalogue.ofBooks books, none⟩, board, config⟩

def SearchRequest.pageSize (request : SearchRequest) (config : Config) : UInt32 :=
  request.size.getD config.search.defaultPageSize

def SearchRequest.Misplaced (request : SearchRequest) (config : Config) : Prop :=
  request.page < 1 ∨ request.pageSize config < 1 ∨ config.search.maxPageSize < request.pageSize config

def Book.searched (book : Book) : List String :=
  [book.isbn, book.title, book.subtitle.getD "", book.author, book.publisher.getD ""]

def Book.Hit (book : Book) (term : String) : Prop :=
  ∃ text ∈ book.searched, (Text.lower term).toList <:+: (Text.lower text).toList

theorem Book.hit_iff (book : Book) (term : String) : book.Hit term ↔ book.toRecord.Hit term := by
  constructor
  · rintro ⟨text, member, inside⟩
    simp only [searched, List.mem_cons, List.not_mem_nil, or_false] at member
    rcases member with rfl | rfl | rfl | rfl | rfl
    · exact ⟨.isbn, inside⟩
    · exact ⟨.title, inside⟩
    · exact ⟨.subtitle, inside⟩
    · exact ⟨.author, inside⟩
    · exact ⟨.publisher, inside⟩
  · rintro ⟨field, inside⟩
    refine ⟨(book.toRecord field).getD "", ?_, inside⟩
    cases field <;> simp [searched, toRecord]

instance (book : Book) (term : String) : Decidable (book.Hit term) :=
  decidable_of_iff _ (book.hit_iff term).symm

/-- Of the books that were put in, those that are still stored and that the query asks for. -/
def askedFor (history : List Book) (query : Query) : List Book :=
  (kept history).filter fun book => query.Combines book.Hit

structure BookSummary.Tells (summary : BookSummary) (book : Book) : Prop where
  id : summary.id = book.isbn
  title : summary.title = book.title
  subtitle : summary.subtitle = book.subtitle
  image : summary.image = book.image
  author : summary.author = book.author
  isbn : summary.isbn = book.isbn
  published : summary.published = book.publishedDate

structure SearchResponse.ShowsPage (response : SearchResponse) (found : List Book) (page size : UInt32) :
    Prop where
  currentPage : response.pageInfo.currentPage = page
  pageSize : response.pageInfo.pageSize = size
  totalElements : found.length < 2 ^ 64 → response.pageInfo.totalElements.toNat = found.length
  totalPages : found.length ≤ (2 ^ 32 - 1) * size.toNat →
    response.pageInfo.totalPages.toNat = found.length ⌈/⌉ size.toNat
  books : ∀ i : Nat, response.books[i]? =
    if i < size.toNat then found[(page.toNat - 1) * size.toNat + i]?.map Book.toSummary else none

theorem matching_of_written {query : Query} (left : Text.NonBlank query.left)
    (right : ∀ term ∈ query.right, Text.NonBlank term) (catalogue : Catalogue) :
    catalogue.matching (Filter.ofQuery query) =
      catalogue.books.filter fun book => query.Combines book.Hit := by
  rw [matching_eq_filter]
  congr 1
  funext book
  rw [Bool.eq_iff_iff, decide_eq_true_iff, Filter.accepts_ofQuery]
  apply combines_congr
  · rw [Filter.accepted_ofTerm, Book.hit_iff]
    exact and_iff_right left
  · intro term given
    rw [Filter.accepted_ofTerm, Book.hit_iff]
    exact and_iff_right (right term given)

def RecordStore.FailsAsStore (records : RecordStore) : Prop :=
  ∀ filter page failure, records.find filter page = .error failure → failure.kind = .store

theorem RecordStore.FailsAsStore.kind {records : RecordStore} (failing : records.FailsAsStore)
    {filter : Filter} {page : PageRequest} {answer : Page Book → SearchOutcome} {failure : Failure}
    (failed : (records.find filter page).map answer = .error failure) : failure.kind = .store := by
  cases find : records.find filter page with
  | error failure' =>
    rw [find, Except.map, Except.error.injEq] at failed
    rw [← failed]
    exact failing _ _ _ find
  | ok found =>
    rw [find] at failed
    contradiction

theorem Store.records_fail (store : Store) : store.records.FailsAsStore := by
  intro filter page failure failed
  have found : store.find filter page = .error failure := failed
  unfold find whenUp at found
  split at found
  · cases found
    rfl
  · contradiction

namespace Service

variable (service : Service) {request : SearchRequest}

theorem pageRequest_misplaced (misplaced : request.Misplaced service.config) :
    ∃ refusal, service.pageRequest request = .error refusal :=
  PageRequest.of?_refused misplaced

theorem pageRequest_placed (placed : ¬ request.Misplaced service.config) :
    ∃ granted, service.pageRequest request = .ok granted ∧ granted.number = request.page ∧
      granted.size = request.pageSize service.config :=
  PageRequest.of?_granted placed

theorem searchIn_read {granted : PageRequest} {query : Query}
    (page : service.pageRequest request = .ok granted)
    (read : Query.parse request.mode request.text = .ok query) (records : RecordStore) :
    service.searchIn records request =
      ((records.find (Filter.ofQuery query) granted).map fun found =>
        ⟨response query granted found, (service.record query).1⟩, (service.record query).2) := by
  simp only [searchIn, page, read]
  cases records.find (Filter.ofQuery query) granted with
  | error failure => rfl
  | ok found => rfl

/-- How a search ends and what it leaves behind: it is refused for its page, else for its query, and else the
keeper of records has the last word. -/
inductive Ends (records : RecordStore) (request : SearchRequest) :
    Except Failure SearchOutcome × Service → Prop where
  | misplaced {message : String} (misplaced : request.Misplaced service.config) :
      Ends records request (.error ⟨.invalidPage, message⟩, service)
  | unread {refusal : QueryError} {message : String} (placed : ¬ request.Misplaced service.config)
      (unread : Query.parse request.mode request.text = .error refusal) :
      Ends records request (.error ⟨.invalidQuery, message⟩, service)
  | asked {granted : PageRequest} {query : Query} (placed : ¬ request.Misplaced service.config)
      (page : service.pageRequest request = .ok granted)
      (read : Query.parse request.mode request.text = .ok query) :
      Ends records request ((records.find (Filter.ofQuery query) granted).map fun found =>
        ⟨response query granted found, (service.record query).1⟩, (service.record query).2)

theorem searchIn_ends (records : RecordStore) (request : SearchRequest) :
    service.Ends records request (service.searchIn records request) := by
  by_cases misplaced : request.Misplaced service.config
  · obtain ⟨refusal, page⟩ := service.pageRequest_misplaced misplaced
    simp only [searchIn, page]
    exact Ends.misplaced misplaced
  · obtain ⟨granted, page, _⟩ := service.pageRequest_placed misplaced
    cases read : Query.parse request.mode request.text with
    | error refusal =>
      simp only [searchIn, page, read]
      exact Ends.unread misplaced read
    | ok query =>
      rw [service.searchIn_read page read]
      exact Ends.asked misplaced page read

theorem refuses_page_iff (request : SearchRequest) :
    (∃ message, (service.search request).1 = .error ⟨.invalidPage, message⟩) ↔
      request.Misplaced service.config := by
  have ends := service.searchIn_ends service.store.records request
  rw [search]
  generalize service.searchIn service.store.records request = result at ends
  cases ends with
  | misplaced misplaced => exact iff_of_true ⟨_, rfl⟩ misplaced
  | unread placed unread => simp [placed]
  | asked placed page read =>
    refine iff_of_false ?_ placed
    rintro ⟨message, failed⟩
    have kind := service.store.records_fail.kind failed
    contradiction

theorem refuses_query_iff (request : SearchRequest) :
    (∃ message, (service.search request).1 = .error ⟨.invalidQuery, message⟩) ↔
      ¬ request.Misplaced service.config ∧
        ∃ refusal, Query.parse request.mode request.text = .error refusal := by
  have ends := service.searchIn_ends service.store.records request
  rw [search]
  generalize service.searchIn service.store.records request = result at ends
  cases ends with
  | misplaced misplaced => simp [misplaced]
  | unread placed unread => exact iff_of_true ⟨_, rfl⟩ ⟨placed, _, unread⟩
  | asked placed page read =>
    refine iff_of_false ?_ (by simp [read])
    rintro ⟨message, failed⟩
    have kind := service.store.records_fail.kind failed
    contradiction

theorem search_up {granted : PageRequest} {query : Query} (page : service.pageRequest request = .ok granted)
    (read : Query.parse request.mode request.text = .ok query) (up : service.store.outage = none) :
    (service.search request).1 = .ok ⟨response query granted
      (Page.cut (service.store.catalogue.matching (Filter.ofQuery query)) granted),
      (service.record query).1⟩ := by
  rw [search, service.searchIn_read page read]
  simp only [Store.records, Store.find, Store.whenUp, up, Except.map]

theorem response_shows_page (query : Query) (request : PageRequest) (found : List Book) :
    (response query request (Page.cut found request)).ShowsPage found request.number request.size where
  currentPage := rfl
  pageSize := rfl
  totalElements := Page.cut_totalElements request
  totalPages := Page.cut_totalPages request
  books := by
    intro i
    rw [response, List.getElem?_map, Page.cut_items]
    split <;> rfl

theorem search_read (books : List Book) (board : Scoreboard) {config : Config} {query : Query}
    (placed : ¬ request.Misplaced config) (read : Query.parse request.mode request.text = .ok query) :
    ∃ outcome, ((holding books board config).search request).1 = .ok outcome ∧
      outcome.response.searchQuery = query.normalized ∧
      outcome.response.searchMetadata.strategy = query.strategy ∧
      outcome.response.ShowsPage (askedFor books query) request.page (request.pageSize config) := by
  obtain ⟨granted, page, number, (size : granted.size = request.pageSize config)⟩ :=
    (holding books board config).pageRequest_placed placed
  obtain ⟨left, right⟩ := terms_written read
  refine ⟨_, (holding books board config).search_up page read rfl, rfl, rfl, ?_⟩
  rw [← number, ← size, askedFor, ← Catalogue.books_ofBooks, ← matching_of_written left right]
  exact response_shows_page query granted _

end Service

/-- A search refuses a misplaced page, then a query that cannot be read, and else answers with the
requested page of the stored books that the query asks for, each told by its summary. -/
theorem search_answers (books : List Book) (board : Scoreboard) (config : Config)
    (request : SearchRequest) :
    ((∃ message, ((Service.holding books board config).search request).1 =
        .error ⟨.invalidPage, message⟩) ↔ request.Misplaced config) ∧
      ((∃ message, ((Service.holding books board config).search request).1 =
          .error ⟨.invalidQuery, message⟩) ↔
        ¬ request.Misplaced config ∧
          ∃ refusal, Query.parse request.mode request.text = .error refusal) ∧
      (∀ query, ¬ request.Misplaced config → Query.parse request.mode request.text = .ok query →
        ∃ outcome, ((Service.holding books board config).search request).1 = .ok outcome ∧
          outcome.response.searchQuery = query.normalized ∧
          outcome.response.searchMetadata.strategy = query.strategy ∧
          outcome.response.ShowsPage (askedFor books query) request.page (request.pageSize config)) ∧
      ∀ book : Book, book.toSummary.Tells book := by
  refine ⟨Service.refuses_page_iff (Service.holding books board config) request,
    Service.refuses_query_iff (Service.holding books board config) request, ?_, ?_⟩
  · intro query placed read
    exact Service.search_read books board placed read
  · intro book
    constructor
    all_goals rfl

end BookSearch
