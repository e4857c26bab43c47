import BookSearch.Proofs.CommandLine.Lines
import BookSearch.Proofs.Files.ConfigLoading
import BookSearch.Proofs.Popularity.TopKeywords
import BookSearch.Proofs.Service.PopularityAccounts

/-!
What a replay prints: the first entries of the one ranking of the lines of its file. Whatever else the run was
given, only the terms of the lines show in it, and of these only how often each came.
-/
namespace BookSearch
namespace CommandLine

def lineTerm? (line : String) : Option String :=
  if Text.isBlank line then none
  else
    match Query.parse .operators (some line) with
    | .error _ => none
    | .ok query => some query.normalized

def terms (text : String) : List String := (lines text).filterMap lineTerm?

structure RanksLines (ranking : List Keyword) (lines : List String) : Prop where
  listed : ∀ term, term ∈ ranking.map Keyword.keyword ↔ ∃ line ∈ lines, lineTerm? line = some term
  once : (ranking.map Keyword.keyword).Nodup
  counted : ∀ entry ∈ ranking,
    entry.count.toNat = lines.countP fun line => lineTerm? line = some entry.keyword
  sorted : ranking.Pairwise Keyword.Above

/-- The run is given a file to replay, and everything that it is given can be loaded. -/
structure Replays (files : FileSystem) (invocation : Invocation) (config : Config) (text : String) : Prop where
  configured : (loadConfig files invocation.configDirectory).1 = .ok config
  stocked : ∃ catalogue,
    loadCatalogue (loadConfig files invocation.configDirectory).2 invocation.catalogue = .ok catalogue
  given : ∃ file, invocation.command = .replay file ∧
    (loadConfig files invocation.configDirectory).2.readText file = .ok text

def printed (keywords : List Keyword) : String := Keyword.codec.list.writeIndented keywords

theorem canonical_of_lineTerm? {line term : String} (read : lineTerm? line = some term) :
    Text.Canonical term := by
  rw [lineTerm?] at read
  split at read
  · simp at read
  · split at read
    · simp at read
    · rename_i query parsed
      rw [← Option.some.inj read]
      exact (Query.parse_again parsed).1.normalized

theorem ranksLines_iff {ranking : List Keyword} {lines : List String} :
    RanksLines ranking lines ↔ Ranks ranking (lines.filterMap lineTerm?) := by
  -- terms of lines are in canonical form, so that the ranking of terms neither drops nor trims any
  have canonical : ∀ term ∈ lines.filterMap lineTerm?, Text.Canonical term := by
    intro term member
    obtain ⟨line, _, read⟩ := List.mem_filterMap.mp member
    exact canonical_of_lineTerm? read
  have raw : ∀ term, (∃ raw ∈ lines.filterMap lineTerm?, Text.NonBlank raw ∧ Text.trim raw = term) ↔
      ∃ line ∈ lines, lineTerm? line = some term := by
    intro term
    rw [← List.mem_filterMap]
    constructor
    · rintro ⟨raw, member, _, same⟩
      rwa [← same, (canonical raw member).trimmed]
    · intro member
      exact ⟨term, member, (canonical term member).nonBlank, (canonical term member).trimmed⟩
  have count : ∀ term, ((lines.filterMap lineTerm?).countP fun raw => Text.trim raw = term) =
      lines.countP fun line => lineTerm? line = some term := by
    intro term
    have bare : ((lines.filterMap lineTerm?).countP fun raw => Text.trim raw = term) =
        (lines.filterMap lineTerm?).count term := by
      rw [List.count_eq_countP]
      apply List.countP_congr
      intro raw member
      simp [(canonical raw member).trimmed]
    rw [bare, List.count_filterMap]
    apply List.countP_congr
    simp
  constructor
  · intro ranks
    exact
      { listed := fun term => (ranks.listed term).trans (raw term).symm
        once := ranks.once
        counted := fun entry member => (ranks.counted entry member).trans (count entry.keyword).symm
        sorted := ranks.sorted }
  · intro ranks
    exact
      { listed := fun term => (ranks.listed term).trans (raw term)
        once := ranks.once
        counted := fun entry member => (ranks.counted entry member).trans (count entry.keyword)
        sorted := ranks.sorted }

namespace Replays

variable {files : FileSystem} {invocation : Invocation} {config : Config} {text : String}

theorem usable (replays : Replays files invocation config text) : config.Usable := by
  have configured := replays.configured
  cases given : invocation.configDirectory with
  | none =>
    rw [given] at configured
    rw [← Except.ok.inj configured]
    exact Config.standard_usable
  | some directory =>
    rw [given, loadConfig] at configured
    cases loaded : Config.load files directory with
    | mk result after =>
      cases result with
      | error fault => simp [loaded, Except.mapError] at configured
      | ok config' =>
        simp only [loaded, Except.mapError, Except.ok.injEq] at configured
        rw [← configured]
        exact Config.load_usable loaded

end Replays

theorem RanksLines.unique {ranking other : List Keyword} {lines : List String}
    (ranks : RanksLines ranking lines) (others : RanksLines other lines) : other = ranking :=
  (ranksLines_iff.mp others).unique (ranksLines_iff.mp ranks)

theorem RanksLines.of_perm {ranking other : List Keyword} {text text' : String}
    (ranks : RanksLines ranking (lines text)) (others : RanksLines other (lines text'))
    (perm : (terms text').Perm (terms text)) : other = ranking :=
  ((ranksLines_iff.mp others).of_perm perm).unique (ranksLines_iff.mp ranks)

end CommandLine
end BookSearch
