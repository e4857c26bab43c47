import BookSearch.Proofs.Files.ConfigSafety
import BookSearch.Proofs.Page.Partition
import BookSearch.Proofs.Service.Listings

/-!
Page sizes under a configuration that was loaded. Its default size is always one that it allows, so a request
that leaves the size open is not refused for its page, and no page is larger than the limit for all of them.
-/
namespace BookSearch

/-- The standard configuration, or one that was loaded from some directory, whatever its files held. -/
def Config.Loaded (config : Config) : Prop :=
  config = standard ∨ ∃ files directory, (load files directory).1 = .ok config

def Service.RefusesPage (service : Service) (request : SearchRequest) : Prop :=
  ∃ message, (service.search request).1 = .error ⟨.invalidPage, message⟩

/-- The page is as full as its size and the number of matches allow. A catalogue of 2^64 books or more could
not be counted. -/
structure SearchResponse.Fills (response : SearchResponse) (page size : UInt32) (stored : Nat) : Prop where
  pageSize : response.pageInfo.pageSize = size
  positive : 1 ≤ response.pageInfo.pageSize
  bounded : response.pageInfo.pageSize ≤ 100
  atMost : response.books.length ≤ response.pageInfo.pageSize.toNat
  exactly : stored < 2 ^ 64 → response.books.length = min response.pageInfo.pageSize.toNat
    (response.pageInfo.totalElements.toNat - (page.toNat - 1) * response.pageInfo.pageSize.toNat)

theorem Config.Loaded.usable {config : Config} (loaded : config.Loaded) : config.Usable := by
  rcases loaded with rfl | ⟨files, directory, loaded⟩
  · exact standard_usable
  · exact load_usable (Prod.ext loaded rfl)

theorem SearchRequest.misplaced_iff {request : SearchRequest} (page : 1 ≤ request.page) (config : Config) :
    request.Misplaced config ↔
      request.pageSize config < 1 ∨ config.search.maxPageSize < request.pageSize config :=
  or_iff_right (UInt32.not_lt.mpr page)

theorem SearchRequest.placed_without_size {request : SearchRequest} (page : 1 ≤ request.page)
    (unsized : request.size = none) {config : Config} (usable : config.Usable) :
    ¬ request.Misplaced config := by
  have size : request.pageSize config = config.search.defaultPageSize := by
    rw [pageSize, unsized, Option.getD_none]
  rw [misplaced_iff page, size, not_or, UInt32.not_lt, UInt32.not_lt]
  exact ⟨usable.positive, usable.ordered⟩

theorem Catalogue.matching_length_le (catalogue : Catalogue) (filter : Filter) :
    (catalogue.matching filter).length ≤ catalogue.size := by
  rw [matching_eq_filter]
  exact List.length_filter_le _ _

namespace Service

variable (service : Service) {request : SearchRequest}

theorem search_answered (placed : ¬ request.Misplaced service.config) {query : Query}
    (read : Query.parse request.mode request.text = .ok query) (up : service.store.outage = none) :
    ∃ outcome, (service.search request).1 = .ok outcome := by
  obtain ⟨granted, page, _⟩ := service.pageRequest_placed placed
  exact ⟨_, service.search_up page read up⟩

theorem response_fills (usable : service.config.Usable) {outcome : SearchOutcome}
    (answered : (service.search request).1 = .ok outcome) :
    outcome.response.Fills request.page (request.pageSize service.config) service.store.catalogue.size := by
  obtain ⟨granted, query, page, -, -, shown⟩ := search_ok answered
  obtain ⟨number, (size : granted.size = request.pageSize service.config)⟩ := PageRequest.number_size_of? page
  have placed : ¬ request.Misplaced service.config := by
    rw [← service.refuses_page_iff]
    rintro ⟨message, refused⟩
    rw [answered] at refused
    contradiction
  have allowed : granted.size ≤ service.config.search.maxPageSize := by
    rw [size]
    exact UInt32.not_lt.mp fun large => placed (Or.inr (Or.inr large))
  have pageSize : outcome.response.pageInfo.pageSize = granted.size := by rw [shown, response]
  have length : outcome.response.books.length = min granted.size.toNat
      ((service.store.catalogue.matching (Filter.ofQuery query)).length -
        (request.page.toNat - 1) * granted.size.toNat) := by
    rw [shown, response, List.length_map, Page.cut_length, PageRequest.offset, number]
  constructor
  · rw [pageSize, size]
  · rw [pageSize]
    exact granted.size_pos
  · rw [pageSize]
    exact UInt32.le_trans allowed usable.bounded
  · rw [pageSize, length]
    exact Nat.min_le_left _ _
  · intro few
    have counted := Nat.lt_of_le_of_lt (Catalogue.matching_length_le _ (Filter.ofQuery query)) few
    have total : outcome.response.pageInfo.totalElements.toNat =
        (service.store.catalogue.matching (Filter.ofQuery query)).length := by
      rw [shown, response]
      exact Page.cut_totalElements granted counted
    rw [pageSize, length, total]

/-- Under a loaded configuration only a size that was asked for and is out of its bounds is refused; a readable
query that leaves the size open is answered. No page has more books than its size, nor any that is missing. -/
theorem loaded_config_serves {service : Service} (loaded : service.config.Loaded) {request : SearchRequest}
    (page : 1 ≤ request.page) :
    (request.size = none → ¬ service.RefusesPage request ∧
      ∀ query, Query.parse request.mode request.text = .ok query → service.store.outage = none →
        ∃ outcome, (service.search request).1 = .ok outcome) ∧
      (∀ size, request.size = some size → (service.RefusesPage request ↔
        size < 1 ∨ service.config.search.maxPageSize < size)) ∧
      ∀ outcome, (service.search request).1 = .ok outcome → outcome.response.Fills request.page
        (request.size.getD service.config.search.defaultPageSize) service.store.catalogue.size := by
  have usable := loaded.usable
  refine ⟨?unsized, ?sized, fun outcome answered => service.response_fills usable answered⟩
  case unsized =>
    intro unsized
    have placed := SearchRequest.placed_without_size page unsized usable
    rw [RefusesPage, refuses_page_iff]
    exact ⟨placed, fun query read up => service.search_answered placed read up⟩
  case sized =>
    intro size given
    have asked : request.pageSize service.config = size := by
      rw [SearchRequest.pageSize, given, Option.getD_some]
    rw [RefusesPage, refuses_page_iff, SearchRequest.misplaced_iff page, asked]

def narrow : Config := { Config.standard with search := { defaultPageSize := 2, maxPageSize := 3 } }

def narrowFiles : FileSystem :=
  (FileSystem.empty.put ["c"] .directory).put ["c", Config.fileName]
    (.file (Config.codec.writeIndented narrow).toUTF8)

theorem narrow_loaded : narrow.Loaded := by
  have standing : Config.Standing narrowFiles ⟨"c"⟩ ["c"] := ⟨by decide, by decide, by decide⟩
  have there : narrowFiles.node? (["c"] ++ [Config.fileName]) =
      some (.file (Config.codec.writeIndented narrow).toUTF8) := FileSystem.node?_put_same _ _ _ (by decide)
  have usable : narrow.Usable := ⟨rfl, by decide, by decide, by decide⟩
  have loaded := Config.load_decoded standing (by decide) there (fromUTF8?_toUTF8 _)
    (Config.codec_faithful.readsBack.indented narrow) usable
  exact Or.inr ⟨narrowFiles, ⟨"c"⟩, congrArg Prod.fst loaded⟩

theorem narrow_pages_served :
    let service := holding
      [{ isbn := "1", title := "Java", author := "Α" }, { isbn := "2", title := "rusty", author := "Β" },
        { isbn := "3", title := "JAVA", author := "Γ" }, { isbn := "4", title := "ja vajava", author := "Δ" }]
      ⟨.memory, Counter.empty⟩ narrow
    let request : SearchRequest := { mode := .literal, text := some " Java", page := 2 }
    service.config.Loaded ∧ 1 ≤ request.page ∧ ¬ service.RefusesPage request ∧
      (∃ outcome, (service.search request).1 = .ok outcome ∧ outcome.response.books.length = 1) ∧
      service.RefusesPage { request with size := some 4 } ∧
      ¬ service.RefusesPage { request with size := some 3 } := by
  intro service request
  have page : 1 ≤ request.page := by decide
  obtain ⟨unsized, -, fills⟩ := @loaded_config_serves service narrow_loaded request page
  have found : ((service.search request).1.toOption.map fun outcome =>
      outcome.response.pageInfo.totalElements) = some 3 := by decide +kernel
  refine ⟨narrow_loaded, page, (unsized rfl).1, ?_, ?_, ?_⟩
  · cases answered : (service.search request).1 with
    | error failure =>
      rw [answered] at found
      contradiction
    | ok outcome =>
      have total : outcome.response.pageInfo.totalElements = 3 := by
        rw [answered] at found
        exact Option.some.inj found
      have length := (fills outcome answered).exactly (by decide)
      rw [(fills outcome answered).pageSize, total] at length
      exact ⟨outcome, rfl, length⟩
  · have sized := (@loaded_config_serves service narrow_loaded { request with size := some 4 } page).2.1
    exact (sized 4 rfl).mpr (Or.inr (by decide))
  · have sized := (@loaded_config_serves service narrow_loaded { request with size := some 3 } page).2.1
    intro refused
    exact absurd ((sized 3 rfl).mp refused) (by decide)

end Service
end BookSearch
