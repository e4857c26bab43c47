import BookSearch.Proofs.Service.Runs

/-!
Popularity cannot be seen in what is searched. Two services over the same store and with the same page sizes
give the same answers, whatever counts the terms for each of them and whatever becomes of those counters.
-/
namespace BookSearch

/-- What happens to a service in a run: a call to it, or its counter turning into any other one. So a counter
may be of any kind and hold anything, fail at times, and finish its recordings late or never. -/
inductive Turn where
  | call (call : Call)
  | counter (board : Scoreboard)

inductive Shown where
  | searched (response : Except Failure SearchResponse)
  | detailed (detail : Except Failure BookDetail)
  | inserted

def Answer.shown? : Answer → Option Shown
  | .searched outcome => some (.searched (outcome.map SearchOutcome.response))
  | .ranked _ => none
  | .detailed detail => some (.detailed detail)
  | .inserted => some .inserted

def Turn.request? : Turn → Option Call
  | .call .topKeywords => none
  | .call asked => some asked
  | .counter _ => none

structure Service.SearchesAs (one other : Service) : Prop where
  store : one.store = other.store
  search : one.config.search = other.config.search

namespace Service

def undergo (service : Service) : Turn → Option Shown × Service
  | .call call =>
    let (answer, after) := service.serve call
    (answer.shown?, after)
  | .counter board => (none, { service with board })

def shown (service : Service) : List Turn → List Shown
  | [] => []
  | turn :: rest => (service.undergo turn).1.toList ++ (service.undergo turn).2.shown rest

variable {one other : Service}

theorem SearchesAs.symm (alike : one.SearchesAs other) : other.SearchesAs one :=
  ⟨alike.store.symm, alike.search.symm⟩

theorem SearchesAs.trans {third : Service} (alike : one.SearchesAs other) (next : other.SearchesAs third) :
    one.SearchesAs third :=
  ⟨alike.store.trans next.store, alike.search.trans next.search⟩

theorem searchIn_searches_as (service : Service) (records : RecordStore) (request : SearchRequest) :
    (service.searchIn records request).2.SearchesAs service := by
  have searched := service.searchIn_searched records request
  generalize service.searchIn records request = result at searched
  cases searched with
  | _ => exact ⟨rfl, rfl⟩

theorem searchIn_response (alike : one.SearchesAs other) (records : RecordStore) (request : SearchRequest) :
    (one.searchIn records request).1.map SearchOutcome.response =
      (other.searchIn records request).1.map SearchOutcome.response := by
  have page : one.pageRequest request = other.pageRequest request := by
    rw [pageRequest, pageRequest, alike.search]
  unfold searchIn
  rw [page]
  cases other.pageRequest request with
  | error refusal => rfl
  | ok granted =>
    cases Query.parse request.mode request.text with
    | error refusal => rfl
    | ok query =>
      -- the recording gives back a flag and a counter, and the records are not asked through either
      dsimp only
      cases records.find (Filter.ofQuery query) granted with
      | error failure => rfl
      | ok found => rfl

theorem undergo_without_request (service : Service) {turn : Turn} (quiet : turn.request? = none) :
    (service.undergo turn).1 = none ∧ (service.undergo turn).2.SearchesAs service := by
  cases turn with
  | counter board => exact ⟨rfl, rfl, rfl⟩
  | call call =>
    cases call with
    | topKeywords => exact ⟨rfl, rfl, rfl⟩
    | _ => contradiction

theorem undergo_shows (service : Service) {turn : Turn} {call : Call} (request : turn.request? = some call) :
    turn = .call call ∧ ∃ shown, (service.undergo turn).1 = some shown := by
  cases turn with
  | counter board => contradiction
  | call asked =>
    cases asked with
    | topKeywords => contradiction
    | _ =>
      cases request
      exact ⟨rfl, _, rfl⟩

theorem serve_alike (alike : one.SearchesAs other) (call : Call) :
    (one.serve call).1.shown? = (other.serve call).1.shown? ∧
      (one.serve call).2.SearchesAs (other.serve call).2 := by
  cases call with
  | search request keeper =>
    have after := (one.searchIn_searches_as (keeper.getD one.store.records) request).trans alike
    have kept := (other.searchIn_searches_as (keeper.getD other.store.records) request).symm
    refine ⟨?_, after.trans kept⟩
    simp only [serve, Answer.shown?, alike.store, searchIn_response alike]
  | topKeywords => exact ⟨rfl, alike⟩
  | detail id keeper =>
    refine ⟨?_, alike⟩
    simp only [serve, alike.store]
  | insert book =>
    refine ⟨rfl, ?_, alike.search⟩
    simp only [serve, insert, alike.store]

theorem shown_requests (alike : one.SearchesAs other) (turns : List Turn) :
    one.shown turns = other.shown ((turns.filterMap Turn.request?).map Turn.call) := by
  induction turns generalizing one other with
  | nil => rfl
  | cons turn rest ih =>
    cases request : turn.request? with
    | none =>
      obtain ⟨silent, after⟩ := one.undergo_without_request request
      rw [shown, silent, Option.toList_none, List.nil_append, List.filterMap_cons_none request]
      exact ih (after.trans alike)
    | some call =>
      obtain ⟨rfl, _⟩ := one.undergo_shows request
      obtain ⟨same, after⟩ := serve_alike alike call
      rw [List.filterMap_cons_some request, List.map_cons, shown, shown]
      simp only [undergo]
      rw [same, ih after]

theorem shown_length (service : Service) (turns : List Turn) :
    (service.shown turns).length = (turns.filterMap Turn.request?).length := by
  induction turns generalizing service with
  | nil => rfl
  | cons turn rest ih =>
    rw [shown, List.length_append, ih]
    cases request : turn.request? with
    | none =>
      obtain ⟨silent, _⟩ := service.undergo_without_request request
      rw [silent, List.filterMap_cons_none request, Option.toList_none, List.length_nil, Nat.zero_add]
    | some call =>
      obtain ⟨_, shown, told⟩ := service.undergo_shows request
      rw [told, List.filterMap_cons_some request, Option.toList_some, List.length_singleton,
        List.length_cons, Nat.add_comm]

/-- Services that differ only in popularity answer every search, every look-up and every insertion alike,
wherever in their runs the ranking is asked for and the counters change. -/
theorem popularity_never_shows (alike : one.SearchesAs other) {turns others : List Turn}
    (same : turns.filterMap Turn.request? = others.filterMap Turn.request?) :
    one.shown turns = other.shown others ∧
      (one.shown turns).length = (turns.filterMap Turn.request?).length := by
  refine ⟨?_, one.shown_length turns⟩
  calc one.shown turns
      = other.shown ((turns.filterMap Turn.request?).map Turn.call) := shown_requests alike turns
    _ = other.shown ((others.filterMap Turn.request?).map Turn.call) := by rw [same]
    _ = other.shown others := (shown_requests ⟨rfl, rfl⟩ others).symm

theorem counters_differ_unseen :
    let one : Service := holding [] ⟨.memory, Counter.empty.increment "k" "go" Binary64.one⟩ Config.standard
    let other : Service := holding [] ⟨.failing, Counter.empty⟩
      { Config.standard with popularity := ⟨false, "", 0, 0⟩ }
    let search : Call := .search ⟨.operators, some " Go | Rust", 1, none⟩ none
    let add : Call := .insert { isbn := "1", title := "Go in Action", author := "William Kennedy" }
    let turns : List Turn :=
      [.call add, .counter ⟨.slow, Counter.empty⟩, .call search, .call .topKeywords, .call (.detail "1" none)]
    let others : List Turn :=
      [.call .topKeywords, .call add, .call search, .call (.detail "1" none), .call .topKeywords]
    one.SearchesAs other ∧ turns.filterMap Turn.request? = others.filterMap Turn.request? ∧
      one.shown turns = other.shown others ∧ (one.shown turns).length = 3 := by
  intro one other search add turns others
  have alike : one.SearchesAs other := ⟨rfl, rfl⟩
  have same : turns.filterMap Turn.request? = others.filterMap Turn.request? := rfl
  exact ⟨alike, same, popularity_never_shows alike same⟩

end Service
end BookSearch
