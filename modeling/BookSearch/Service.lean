import BookSearch.Catalogue
import BookSearch.Popularity
import BookSearch.Preferences

/-!
A running search service, what each request does to it, and what a search answers: the query as it was
understood, where the page stands, and the books on it. A search checks its page, reads its query, records
it, and only then asks for the records, so a search that is not answered is still counted.
-/
namespace BookSearch

structure PageInfo where
  currentPage : UInt32
  pageSize : UInt32
  totalPages : UInt32
  totalElements : UInt64
  deriving DecidableEq, Repr

/-- The time is in milliseconds. -/
structure SearchMetadata where
  executionTime : UInt64
  strategy : Strategy
  deriving DecidableEq, Repr

structure SearchResponse where
  searchQuery : String
  pageInfo : PageInfo
  books : List BookSummary
  searchMetadata : SearchMetadata
  deriving DecidableEq, Repr

structure SearchRequest where
  mode : Mode
  text : Option String
  page : UInt32 := 1
  size : Option UInt32 := none
  deriving DecidableEq, Repr

structure SearchOutcome where
  response : SearchResponse
  dispatched : Bool
  deriving DecidableEq, Repr

structure Service where
  store : Store
  board : Scoreboard
  config : Config
  deriving DecidableEq

namespace Service

def popularity (service : Service) : Popularity := ⟨service.board, service.config.popularity.counterKey⟩

def pageRequest (service : Service) (request : SearchRequest) : Except PageError PageRequest :=
  PageRequest.of? request.page (request.size.getD service.config.search.defaultPageSize)
    service.config.search.maxPageSize

/-- A service whose popularity is switched off dispatches nothing. -/
def record (service : Service) (query : Query) : Bool × Service :=
  if service.config.popularity.enabled then
    let (dispatched, popularity) := service.popularity.record true query.normalized
    (dispatched, { service with board := popularity.board })
  else (false, service)

/-- The time spent is not part of the answer here and stands as zero. -/
def response (query : Query) (request : PageRequest) (found : Page Book) : SearchResponse where
  searchQuery := query.normalized
  pageInfo :=
    { currentPage := request.number
      pageSize := request.size
      totalPages := found.totalPages
      totalElements := found.totalElements }
  books := found.items.map Book.toSummary
  searchMetadata := { executionTime := 0, strategy := query.strategy }

def searchIn (service : Service) (records : RecordStore) (request : SearchRequest) :
    Except Failure SearchOutcome × Service :=
  match service.pageRequest request with
  | .error refusal => (.error refusal.toFailure, service)
  | .ok page =>
    match Query.parse request.mode request.text with
    | .error refusal => (.error refusal.toFailure, service)
    | .ok query =>
      let (dispatched, service) := service.record query
      match records.find (Filter.ofQuery query) page with
      | .error failure => (.error failure, service)
      | .ok found => (.ok ⟨response query page found, dispatched⟩, service)

def search (service : Service) (request : SearchRequest) : Except Failure SearchOutcome × Service :=
  service.searchIn service.store.records request

def detail (service : Service) (id : String) : Except Failure BookDetail := service.store.detail id

def topKeywords (service : Service) : List Keyword :=
  service.popularity.topKeywords service.config.popularity.topK.toNat

def insert (service : Service) (book : Book) : Service :=
  { service with store := service.store.insert book }

end Service
end BookSearch
