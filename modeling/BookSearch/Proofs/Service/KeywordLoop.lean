import BookSearch.Proofs.Popularity.TopKeywords
import BookSearch.Proofs.Service.PopularityAccounts

/-!
From searches to the most frequent keywords and back. Every keyword of a ranking was the text of some query, so
that it reads as itself, counts for itself, and finds what the requests found that it was counted for.
-/
namespace BookSearch

def Service.countOf (service : Service) (term : String) : Nat :=
  (service.board.memory.score? service.config.popularity.counterKey term).elim 0 fun score => score.toCount.toNat

def Call.TakesOperators : Call → Prop
  | .search request _ => request.mode = .operators
  | .topKeywords | .detail _ _ | .insert _ => True

/-- The request is read as the query, and nobody but the keeper of records can fail it. -/
structure Service.Understands (service : Service) (request : SearchRequest) (query : Query) : Prop where
  read : Query.parse request.mode request.text = .ok query
  shown : ∀ records outcome, (service.searchIn records request).1 = .ok outcome →
    outcome.response.searchQuery = query.normalized ∧ outcome.response.searchMetadata.strategy = query.strategy
  failed : ∀ records failure, (service.searchIn records request).1 = .error failure →
    ∃ filter page, records.find filter page = .error failure
  answered : service.store.outage = none → ∃ outcome, (service.search request).1 = .ok outcome

structure Service.Raises (before after : Service) (term : String) : Prop where
  raised : after.countOf term = before.countOf term + 1
  others : ∀ key other, key ≠ before.config.popularity.counterKey ∨ other ≠ term →
    after.board.memory.score? key other = before.board.memory.score? key other
  listed : ∀ entry ∈ after.topKeywords, entry.count.toNat = after.countOf entry.keyword

/-- Searching for the keyword is, on every page, searching for what was asked for in the calls that were counted
for it. -/
structure Service.StandsFor (service : Service) (keyword : String) (calls : List Call) (query : Query) :
    Prop where
  normalized : query.normalized = keyword
  first : ∃ original other, calls.find? (fun call => call.term? service.config = some keyword) =
    some (.search original other)
  same : ∀ original other, .search original other ∈ calls → original.term? service.config = some keyword →
    Query.parse original.mode original.text = .ok query ∧
      ∀ (again : Service) records page size,
        again.searchIn records ⟨.operators, some keyword, page, size⟩ =
          again.searchIn records { original with page, size }
  understood : ∀ page size, ¬ SearchRequest.Misplaced ⟨.operators, some keyword, page, size⟩ service.config →
    service.Understands ⟨.operators, some keyword, page, size⟩ query

structure Service.Closes (service : Service) (calls : List Call) (entry : Keyword) : Prop where
  positive : 1 ≤ entry.count
  counted : entry.count.toNat = service.countOf entry.keyword
  written : Text.NonBlank entry.keyword
  trimmed : Text.trim entry.keyword = entry.keyword
  normal : normalize (some entry.keyword) = .ok entry.keyword
  browsed : ∀ page size,
    ¬ SearchRequest.Misplaced ⟨.literal, some entry.keyword, page, size⟩ service.config →
      service.Understands ⟨.literal, some entry.keyword, page, size⟩ (Query.single entry.keyword) ∧
        ∀ records, service.Raises (service.searchIn records ⟨.literal, some entry.keyword, page, size⟩).2
          entry.keyword
  searched : (∀ call ∈ calls, call.TakesOperators) → ∃ query, service.StandsFor entry.keyword calls query

namespace Service

section Single

variable {service : Service} {entry : Keyword} {request : SearchRequest} {query : Query}

theorem stored_of_listed (kind : service.board.kind = .memory) (listed : entry ∈ service.topKeywords) :
    ∃ stored ∈ (service.board.memory.set service.config.popularity.counterKey).entries,
      stored.toKeyword = entry := by
  obtain ⟨stored, top, keyword⟩ := List.mem_map.mp listed
  refine ⟨stored, ?_, keyword⟩
  unfold Popularity.top Popularity.topFrom at top
  split at top
  · contradiction
  · rw [popularity, Scoreboard.read, kind] at top
    exact Counter.mem_entries_of_range (List.mem_of_mem_take top)

theorem count_of_listed (kind : service.board.kind = .memory) (listed : entry ∈ service.topKeywords) :
    entry.count.toNat = service.countOf entry.keyword := by
  obtain ⟨stored, member, rfl⟩ := stored_of_listed kind listed
  have score := (RankedSet.mem_entries_iff _ stored).mp member
  rw [countOf, Counter.score?, Entry.toKeyword, score, Option.elim_some]

theorem understands (placed : ¬ request.Misplaced service.config)
    (read : Query.parse request.mode request.text = .ok query) : service.Understands request query := by
  obtain ⟨granted, page, _⟩ := service.pageRequest_placed placed
  have searched := service.searchIn_read page read
  constructor
  case read => exact read
  case shown =>
    intro records outcome answered
    rw [searched] at answered
    cases found : records.find (Filter.ofQuery query) granted with
    | error failure => simp [found, Except.map] at answered
    | ok matched =>
      simp only [found, Except.map, Except.ok.injEq] at answered
      rw [← answered]
      exact ⟨rfl, rfl⟩
  case failed =>
    intro records failure failed
    rw [searched] at failed
    cases found : records.find (Filter.ofQuery query) granted with
    | error failure' =>
      simp only [found, Except.map, Except.error.injEq] at failed
      exact ⟨_, _, failed ▸ found⟩
    | ok matched => simp [found, Except.map] at failed
  case answered =>
    intro up
    exact ⟨_, service.search_up page read up⟩

theorem searchIn_congr (service : Service) (records : RecordStore) {one other : SearchRequest}
    (page : one.page = other.page) (size : one.size = other.size)
    (read : Query.parse one.mode one.text = Query.parse other.mode other.text) :
    service.searchIn records one = service.searchIn records other := by
  have placed : service.pageRequest one = service.pageRequest other := by
    rw [pageRequest, pageRequest, page, size]
  rw [searchIn, searchIn, placed, read]

theorem raises (kind : service.board.kind = .memory) (on : service.config.popularity.enabled = true)
    {term : String} {n : Nat} (scored : Scored
      (service.board.memory.score? service.config.popularity.counterKey term) n) (few : n + 1 ≤ 2 ^ 53)
    (asked : request.term? service.config = some term) (records : RecordStore) :
    service.Raises (service.searchIn records request).2 term := by
  have searched := service.searchIn_searched records request
  have counted : (service.searchIn records request).2.board =
      ⟨.memory, service.board.memory.increment service.config.popularity.counterKey term Binary64.one⟩ := by
    rw [searched.board, asked, Option.elim_some, Scoreboard.counting, if_pos on, Scoreboard.increment, kind]
  constructor
  · have raised : Scored (some (service.board.memory.increased service.config.popularity.counterKey term
        Binary64.one)) (n + 1) := ⟨Nat.succ_pos n, scored.increased few⟩
    rw [countOf, countOf, counted, searched.config, Counter.score?_increment_same, raised.toNat few,
      scored.toNat (by omega)]
  · intro key other apart
    rw [counted]
    exact Counter.score?_increment_other _ apart _
  · intro entry listed
    exact count_of_listed (by rw [counted]) listed

end Single

section Fresh

variable (store : Store) {config : Config} {calls : List Call}

theorem stands_for_asked {keyword : String} (member : keyword ∈ asked config calls)
    (operators : ∀ call ∈ calls, call.TakesOperators) :
    ∃ query, ((fresh store config).run calls).StandsFor keyword calls query := by
  have settings : ((fresh store config).run calls).config = config := run_config _ calls
  obtain ⟨call, called, counted⟩ := List.mem_filterMap.mp member
  obtain ⟨request, other, rfl⟩ := Call.search_of_term counted
  obtain ⟨query, normalized, _, again⟩ := SearchRequest.term?_again counted
  have mode : request.mode = .operators := operators _ called
  rw [mode] at again
  refine ⟨query, normalized, ?first, ?same, ?understood⟩
  case first =>
    rw [settings]
    cases first : calls.find? (fun call => call.term? config = some keyword) with
    | none => exact absurd counted (by simpa using List.find?_eq_none.mp first _ called)
    | some found =>
      have counted' : found.term? config = some keyword := by simpa using List.find?_some first
      obtain ⟨original, keeper, rfl⟩ := Call.search_of_term counted'
      exact ⟨original, keeper, rfl⟩
  case same =>
    intro original keeper called' counted'
    rw [settings] at counted'
    obtain ⟨query', _, read, again'⟩ := SearchRequest.term?_again counted'
    have mode' : original.mode = .operators := operators _ called'
    -- the keyword reads as one query only, so all that was counted for it was that query
    rw [mode', again, Except.ok.injEq] at again'
    subst again'
    refine ⟨read, ?_⟩
    intro service records page size
    exact service.searchIn_congr records rfl rfl (again.trans read.symm)
  case understood =>
    intro page size placed
    exact understands placed again

variable (on : config.popularity.enabled = true) (few : (asked config calls).length < 2 ^ 53)
include on few

theorem run_ranks : ∃ ranking, Ranks ranking (asked config calls) ∧
    ((fresh store config).run calls).topKeywords = ranking.take config.popularity.topK.toNat := by
  have terms := recorded_asked (List.Perm.refl (asked config calls))
  rw [← terms] at few
  obtain ⟨ranking, ranks, top⟩ := Popularity.topKeywords_recordAll config.popularity.counterKey few
  refine ⟨ranking, ranks, ?_⟩
  rw [← top, topKeywords, popularity, board_on store calls on, run_config, Popularity.recordAll_inMemory, terms]
  rfl

theorem listed_asked {entry : Keyword} (listed : entry ∈ ((fresh store config).run calls).topKeywords) :
    entry.keyword ∈ asked config calls ∧
      entry.count.toNat = (asked config calls).count entry.keyword := by
  obtain ⟨ranking, ranks, top⟩ := run_ranks store on few
  rw [top] at listed
  have ranked := List.mem_of_mem_take listed
  have terms := recorded_asked (List.Perm.refl (asked config calls))
  have member : entry.keyword ∈ recorded (asked config calls) := by
    rw [mem_recorded_iff, ← ranks.listed]
    exact List.mem_map_of_mem ranked
  rw [ranks.counted entry ranked, ← count_recorded member, terms]
  exact ⟨terms ▸ member, rfl⟩

theorem scored_run (term : String) :
    Scored (((fresh store config).run calls).board.memory.score?
      ((fresh store config).run calls).config.popularity.counterKey term) ((asked config calls).count term) := by
  rw [board_on store calls on, run_config]
  exact Counter.countAll_tallies config.popularity.counterKey few term

/-- Every keyword that is listed after the calls can be searched for in turn: as it stands it counts for itself
alone, and with operators it is the query that it was counted for. -/
theorem listed_keywords_close : ∀ entry ∈ ((fresh store config).run calls).topKeywords,
    ((fresh store config).run calls).Closes calls entry := by
  intro entry listed
  have kind : ((fresh store config).run calls).board.kind = .memory := by rw [board_on store calls on]
  have enabled : ((fresh store config).run calls).config.popularity.enabled = true := by rw [run_config, ← on]; rfl
  obtain ⟨member, count⟩ := listed_asked store on few listed
  obtain ⟨call, _, counted⟩ := List.mem_filterMap.mp member
  have canonical := Call.canonical_term counted
  have often : 0 < (asked config calls).count entry.keyword := List.count_pos_iff.mpr member
  have bound : (asked config calls).count entry.keyword ≤ (asked config calls).length := List.count_le_length
  constructor
  case positive =>
    rw [UInt64.le_iff_toNat_le, count]
    exact often
  case counted => exact count_of_listed kind listed
  case written => exact canonical.nonBlank
  case trimmed => exact canonical.trimmed
  case normal => exact canonical.normalize
  case browsed =>
    intro page size placed
    have read := canonical.parse_literal
    have scored := scored_run store on few entry.keyword
    exact ⟨understands placed read,
      raises kind enabled scored (by omega) (SearchRequest.term?_read placed read)⟩
  case searched => exact stands_for_asked store member

end Fresh

theorem sigma_keyword_closes :
    let calls : List Call :=
      [.search ⟨.operators, some " ΑΣ |Go", 1, none⟩ none, .search ⟨.operators, some "rust", 7, some 1⟩ none,
        .search ⟨.operators, some "|", 1, none⟩ none, .search ⟨.operators, some "ας| GO\t", 2, some 5⟩ none]
    let service := (fresh ⟨Catalogue.empty, none⟩ Config.standard).run calls
    Config.standard.popularity.enabled = true ∧ (asked Config.standard calls).length < 2 ^ 53 ∧
      ⟨"ας|go", 2⟩ ∈ service.topKeywords ∧ service.Closes calls ⟨"ας|go", 2⟩ ∧
        ∃ query, service.StandsFor "ας|go" calls query := by
  intro calls service
  have few : (asked Config.standard calls).length < 2 ^ 53 := by decide +kernel
  have terms : asked Config.standard calls = ["ας|go", "rust", "ας|go"] := by decide +kernel
  have ranks : Ranks [⟨"ας|go", 2⟩, ⟨"rust", 1⟩] (asked Config.standard calls) := by
    constructor
    · intro term
      rw [← mem_recorded_iff, recorded_asked (List.Perm.refl _), terms]
      grind
    · decide
    · rw [terms]
      decide +kernel
    · simp [Keyword.Above]
  have listed : ⟨"ας|go", 2⟩ ∈ service.topKeywords := by
    obtain ⟨ranking, ranks', top⟩ := run_ranks ⟨Catalogue.empty, none⟩ rfl few
    rw [top, ranks'.unique ranks]
    decide
  have closes := listed_keywords_close ⟨Catalogue.empty, none⟩ rfl few _ listed
  exact ⟨rfl, few, listed, closes, closes.searched (by simp [calls, Call.TakesOperators])⟩

end Service
end BookSearch
