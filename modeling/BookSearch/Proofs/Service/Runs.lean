import BookSearch.Proofs.Query.CanonicalText
import BookSearch.Proofs.Service.SearchAnswers

/-!
Runs of a service: the calls that come one after the other, what each of them answers and leaves behind, and
which terms the calls ask for. Whoever answers for the records, only the terms show on the scoreboard.
-/
namespace BookSearch

/-- A call to the service. Where it names a keeper of records, that one answers and not the service's own
store, so that any store may stand behind a run, also one that changes its mind. -/
inductive Call where
  | search (request : SearchRequest) (other : Option RecordStore)
  | topKeywords
  | detail (id : String) (other : Option RecordStore)
  | insert (book : Book)

inductive Answer where
  | searched (outcome : Except Failure SearchOutcome)
  | ranked (keywords : List Keyword)
  | detailed (detail : Except Failure BookDetail)
  | inserted

namespace Service

def serve (service : Service) : Call → Answer × Service
  | .search request other =>
    let (outcome, after) := service.searchIn (other.getD service.store.records) request
    (.searched outcome, after)
  | .topKeywords => (.ranked service.topKeywords, service)
  | .detail id other => (.detailed ((other.getD service.store.records).detail id), service)
  | .insert book => (.inserted, service.insert book)

def run (service : Service) (calls : List Call) : Service :=
  calls.foldl (fun service call => (service.serve call).2) service

end Service

instance (request : SearchRequest) (config : Config) : Decidable (request.Misplaced config) :=
  inferInstanceAs (Decidable (_ ∨ _ ∨ _))

def SearchRequest.term? (request : SearchRequest) (config : Config) : Option String :=
  if request.Misplaced config then none
  else
    match Query.parse request.mode request.text with
    | .error _ => none
    | .ok query => some query.normalized

def Call.term? (config : Config) : Call → Option String
  | .search request _ => request.term? config
  | .topKeywords | .detail _ _ | .insert _ => none

def asked (config : Config) (calls : List Call) : List String := calls.filterMap (Call.term? config)

def Scoreboard.counting (preferences : PopularityPreferences) (board : Scoreboard) (term : String) :
    Scoreboard :=
  if preferences.enabled then board.increment preferences.counterKey term Binary64.one else board

namespace SearchRequest

variable {request : SearchRequest} {config : Config}

theorem term?_misplaced (misplaced : request.Misplaced config) : request.term? config = none :=
  if_pos misplaced

theorem term?_unread {refusal : QueryError} (unread : Query.parse request.mode request.text = .error refusal) :
    request.term? config = none := by
  simp [term?, unread]

theorem term?_read (placed : ¬ request.Misplaced config) {query : Query}
    (read : Query.parse request.mode request.text = .ok query) :
    request.term? config = some query.normalized := by
  simp [term?, placed, read]

theorem term?_again {term : String} (asked : request.term? config = some term) :
    ∃ query, query.normalized = term ∧ Query.parse request.mode request.text = .ok query ∧
      Query.parse request.mode (some term) = .ok query := by
  unfold term? at asked
  split at asked
  · contradiction
  · split at asked
    · contradiction
    · rename_i query read
      cases asked
      exact ⟨query, rfl, read, (Query.parse_again read).2⟩

end SearchRequest

theorem Call.search_of_term {config : Config} {call : Call} {term : String}
    (asked : call.term? config = some term) : ∃ request other, call = .search request other := by
  cases call with
  | search request other => exact ⟨request, other, rfl⟩
  | topKeywords => contradiction
  | detail id other => contradiction
  | insert book => contradiction

namespace Service

variable (service : Service)

theorem record_counts {query : Query} (canonical : Text.Canonical query.normalized) :
    (service.record query).2 =
      { service with board := service.board.counting service.config.popularity query.normalized } := by
  -- a canonical text is neither dropped as blank nor trimmed any further when it is recorded
  have written : Text.isBlank query.normalized = false := (Text.nonBlank_iff _).mp canonical.nonBlank
  unfold record Scoreboard.counting
  split
  · simp [popularity, Popularity.record, written, canonical.trimmed]
  · rfl

inductive Searched (records : RecordStore) (request : SearchRequest) :
    Except Failure SearchOutcome × Service → Prop where
  | refused {failure : Failure} (unasked : request.term? service.config = none)
      (kind : failure.kind = .invalidPage ∨ failure.kind = .invalidQuery) :
      Searched records request (.error failure, service)
  | failed {term : String} {filter : Filter} {page : PageRequest} {failure : Failure}
      (asked : request.term? service.config = some term) (failed : records.find filter page = .error failure) :
      Searched records request (.error failure,
        { service with board := service.board.counting service.config.popularity term })
  | found {term : String} {outcome : SearchOutcome} (asked : request.term? service.config = some term) :
      Searched records request (.ok outcome,
        { service with board := service.board.counting service.config.popularity term })

theorem searchIn_searched (records : RecordStore) (request : SearchRequest) :
    service.Searched records request (service.searchIn records request) := by
  have ends := service.searchIn_ends records request
  generalize service.searchIn records request = result at ends
  cases ends with
  | misplaced misplaced => exact Searched.refused (SearchRequest.term?_misplaced misplaced) (Or.inl rfl)
  | unread placed unread => exact Searched.refused (SearchRequest.term?_unread unread) (Or.inr rfl)
  | @asked granted query placed page read =>
    have term := SearchRequest.term?_read placed read
    rw [service.record_counts (Query.parse_again read).1.normalized]
    cases find : records.find (Filter.ofQuery query) granted with
    | error failure => exact Searched.failed term find
    | ok found => exact Searched.found term

theorem Searched.board {records : RecordStore} {request : SearchRequest}
    {result : Except Failure SearchOutcome × Service} (searched : service.Searched records request result) :
    result.2.board = (request.term? service.config).elim service.board
      (service.board.counting service.config.popularity) := by
  cases searched with
  | refused unasked => rw [unasked, Option.elim_none]
  | failed asked => rw [asked, Option.elim_some]
  | found asked => rw [asked, Option.elim_some]

theorem Searched.config {records : RecordStore} {request : SearchRequest}
    {result : Except Failure SearchOutcome × Service} (searched : service.Searched records request result) :
    result.2.config = service.config := by
  cases searched with
  | _ => rfl

theorem serve_board (call : Call) :
    (service.serve call).2.board = (call.term? service.config).elim service.board
      (service.board.counting service.config.popularity) := by
  cases call with
  | search request other => exact (service.searchIn_searched _ request).board
  | topKeywords => rfl
  | detail id other => rfl
  | insert book => rfl

theorem serve_config (call : Call) : (service.serve call).2.config = service.config := by
  cases call with
  | search request other => exact (service.searchIn_searched _ request).config
  | topKeywords => rfl
  | detail id other => rfl
  | insert book => rfl

theorem run_board (calls : List Call) :
    (service.run calls).board =
      (asked service.config calls).foldl (Scoreboard.counting service.config.popularity) service.board := by
  -- the settings by which terms are counted never change, so what holds after the first call carries on
  induction calls generalizing service with
  | nil => rfl
  | cons call rest ih =>
    have after := ih (service.serve call).2
    rw [serve_config, serve_board] at after
    rw [run, List.foldl_cons, ← run, after]
    cases term : call.term? service.config with
    | none => simp [asked, term]
    | some term' => simp [asked, term]

theorem run_config (calls : List Call) : (service.run calls).config = service.config := by
  induction calls generalizing service with
  | nil => rfl
  | cons call rest ih =>
    have after := ih (service.serve call).2
    rwa [serve_config] at after

end Service
end BookSearch
