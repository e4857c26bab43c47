import BookSearch.Proofs.Popularity.Tally
import BookSearch.Proofs.Service.Runs

/-!
What popularity keeps of a whole run. Every search that is not refused adds one to its normalized text,
whether or not the records are then found, and nothing else in a run shows on the counter.
-/
namespace BookSearch

def Service.fresh (store : Store) (config : Config) : Service := ⟨store, ⟨.memory, Counter.empty⟩, config⟩

/-- What the counter shows after the calls, also if their recordings finish in another order, and what the
call that comes next leaves as it is. -/
structure Service.Accounts (service : Service) (config : Config) (calls : List Call) : Prop where
  counted : config.popularity.enabled = true → ∀ term,
    Scored (service.board.memory.score? config.popularity.counterKey term)
      (calls.countP fun call => call.term? config = some term)
  reordered : config.popularity.enabled = true →
    ∀ finished : List String, finished.Perm (asked config calls) → ∀ term,
      Scored (((Popularity.inMemory config.popularity.counterKey Counter.empty).recordAll
          finished).board.memory.score? config.popularity.counterKey term)
        (calls.countP fun call => call.term? config = some term)
  switchedOff : config.popularity.enabled = false → service.board.memory = Counter.empty
  elsewhere : ∀ key, key ≠ config.popularity.counterKey → (service.board.memory.set key).entries = []
  kept : ∀ call : Call, call.term? config = none → (service.serve call).2.board = service.board
  refused : ∀ (request : SearchRequest) (other : Option RecordStore),
    (∀ records ∈ other, records.FailsAsStore) →
      ((∃ failure, (service.serve (.search request other)).1 = .searched (.error failure) ∧
          (failure.kind = .invalidPage ∨ failure.kind = .invalidQuery)) ↔
        request.term? config = none)

theorem Call.canonical_term {config : Config} {call : Call} {term : String}
    (asked : call.term? config = some term) : Text.Canonical term := by
  obtain ⟨request, other, rfl⟩ := Call.search_of_term asked
  obtain ⟨query, rfl, read, _⟩ := SearchRequest.term?_again asked
  exact (Query.parse_again read).1.normalized

theorem recorded_asked {config : Config} {calls : List Call} {finished : List String}
    (perm : finished.Perm (asked config calls)) : recorded finished = finished := by
  have canonical : ∀ term ∈ finished, Text.Canonical term := by
    intro term member
    obtain ⟨call, _, term⟩ := List.mem_filterMap.mp (perm.mem_iff.mp member)
    exact Call.canonical_term term
  have written : ∀ term ∈ finished, (!Text.isBlank term) = true := by
    intro term member
    rw [(Text.nonBlank_iff term).mp (canonical term member).nonBlank, Bool.not_false]
  have bare : finished.map Text.trim = finished.map id :=
    List.map_congr_left fun term member => (canonical term member).trimmed
  rw [recorded, List.filter_eq_self.mpr written, bare, List.map_id]

theorem count_asked (config : Config) (calls : List Call) (term : String) :
    (asked config calls).count term = calls.countP fun call => call.term? config = some term := by
  rw [asked, List.count_filterMap]
  apply List.countP_congr
  simp

namespace Scoreboard

theorem counting_on {preferences : PopularityPreferences} (on : preferences.enabled = true) (memory : Counter)
    (terms : List String) :
    terms.foldl (counting preferences) ⟨.memory, memory⟩ =
      ⟨.memory, memory.countAll preferences.counterKey terms⟩ := by
  induction terms generalizing memory with
  | nil => rfl
  | cons term rest ih =>
    have step : counting preferences ⟨.memory, memory⟩ term =
        ⟨.memory, memory.increment preferences.counterKey term Binary64.one⟩ := by
      simp [counting, on, increment]
    rw [List.foldl_cons, step, ih, Counter.countAll, Counter.countAll, List.foldl_cons]

theorem counting_off {preferences : PopularityPreferences} (off : preferences.enabled = false)
    (board : Scoreboard) (terms : List String) : terms.foldl (counting preferences) board = board := by
  induction terms with
  | nil => rfl
  | cons term rest ih => simpa [counting, off] using ih

end Scoreboard

namespace Service

section Fresh

variable (store : Store) {config : Config} (calls : List Call)

theorem board_on (on : config.popularity.enabled = true) : ((fresh store config).run calls).board =
    ⟨.memory, Counter.empty.countAll config.popularity.counterKey (asked config calls)⟩ := by
  rw [run_board]
  exact Scoreboard.counting_on on Counter.empty (asked config calls)

theorem memory_on (on : config.popularity.enabled = true) :
    ((fresh store config).run calls).board.memory =
      Counter.empty.countAll config.popularity.counterKey (asked config calls) :=
  congrArg Scoreboard.memory (board_on store calls on)

theorem memory_off (off : config.popularity.enabled = false) :
    ((fresh store config).run calls).board.memory = Counter.empty := by
  rw [run_board]
  exact congrArg Scoreboard.memory (Scoreboard.counting_off off _ (asked config calls))

theorem other_key_empty (config : Config) {key : String} (other : key ≠ config.popularity.counterKey) :
    (((fresh store config).run calls).board.memory.set key).entries = [] := by
  cases switch : config.popularity.enabled with
  | true =>
    rw [memory_on store calls switch, Counter.countAll_other other]
    rfl
  | false =>
    rw [memory_off store calls switch]
    rfl

end Fresh

theorem refused_iff (service : Service) (request : SearchRequest) {records : RecordStore}
    (failing : records.FailsAsStore) :
    (∃ failure, (service.searchIn records request).1 = .error failure ∧
        (failure.kind = .invalidPage ∨ failure.kind = .invalidQuery)) ↔
      request.term? service.config = none := by
  have searched := service.searchIn_searched records request
  generalize service.searchIn records request = result at searched
  cases searched with
  | refused unasked kind => simp [unasked, kind]
  | failed asked failed =>
    have kind := failing _ _ _ failed
    simp [asked, kind]
  | found asked => simp [asked]

/-- The counter of a service counts, for each term, the searches that were not refused and read as it. -/
theorem popularity_accounts (store : Store) (config : Config) (calls : List Call)
    (few : config.popularity.enabled = true → (asked config calls).length < 2 ^ 53) :
    ((fresh store config).run calls).Accounts config calls := by
  have same : ((fresh store config).run calls).config = config := run_config _ calls
  have tallied : config.popularity.enabled = true → ∀ finished : List String,
      finished.Perm (asked config calls) → ∀ term, Scored ((Counter.empty.countAll config.popularity.counterKey
        finished).score? config.popularity.counterKey term)
          (calls.countP fun call => call.term? config = some term) := by
    intro on finished perm term
    have tallies := Counter.countAll_tallies config.popularity.counterKey (perm.length_eq ▸ few on)
    rw [← count_asked]
    exact tallies.perm perm term
  constructor
  · intro on
    rw [memory_on store calls on]
    exact tallied on _ (List.Perm.refl _)
  · intro on finished perm
    rw [Popularity.recordAll_inMemory, recorded_asked perm]
    exact tallied on finished perm
  · exact memory_off store calls
  · intro key other
    exact other_key_empty store calls config other
  · intro call unasked
    rw [serve_board, same, unasked, Option.elim_none]
  · intro request other failing
    have records : (other.getD ((fresh store config).run calls).store.records).FailsAsStore := by
      cases other with
      | none => exact Store.records_fail _
      | some records => exact failing records rfl
    have refused := refused_iff ((fresh store config).run calls) request records
    rw [same] at refused
    simpa [serve] using refused

theorem spellings_counted_together :
    let calls : List Call :=
      [.search ⟨.operators, some "Rust | Go", 1, none⟩ none, .search ⟨.operators, some "rust|", 1, none⟩ none,
        .topKeywords, .detail "1" none, .search ⟨.literal, some "RUST|GO", 0, none⟩ none,
        .search ⟨.literal, some " RUST|GO\t", 2, some 5⟩ none]
    (asked Config.standard calls).length < 2 ^ 53 ∧
      Scored (((fresh ⟨Catalogue.empty, some "catalog offline"⟩ Config.standard).run
        calls).board.memory.score? "search:query:popular" "rust|go") 2 := by
  intro calls
  have few : (asked Config.standard calls).length < 2 ^ 53 := by decide +kernel
  exact ⟨few, (popularity_accounts _ Config.standard calls fun _ => few).counted rfl "rust|go"⟩

end Service
end BookSearch
