import BookSearch.CommandLine.Run
import BookSearch.Proofs.Files.ConfigSafety

/-!
What a run leaves in the files, and what the same command line does there when it is run again. Nothing is
written but a configuration that was missing, with the directories around it, and that happens before anything
else is looked at; so the second run finds all files as the first one read them.
-/
namespace BookSearch

/-- At most a missing configuration was put in place, or begun to be. -/
structure FileSystem.Completes (before after : FileSystem) (directory : Path) : Prop where
  kept : ∀ place held, before.node? place = some held → after.node? place = some held
  added : ∀ place held, before.node? place = none → after.node? place = some held →
    (held = .directory ∧ place <+: directory.steps) ∨
      (held = .file (Config.codec.writeIndented Config.standard).toUTF8 ∧ place = Config.place directory)
  idle : before.node? (Config.place directory) ≠ none → after = before

namespace FileSystem

variable {before after : FileSystem} {directory : Path}

theorem completes_nothing (files : FileSystem) (directory : Path) : files.Completes files directory where
  kept _ _ there := there
  added _ _ missing there := by
    rw [missing] at there
    contradiction
  idle _ := rfl

theorem Paved.completes {made : Place} (paved : before.Paved after made) (part : made <+: directory.steps)
    (missing : before.node? (Config.place directory) = none) : before.Completes after directory where
  kept place held there := by
    rw [paved, if_neg fun absent => by simp [there] at absent, there]
  added place held nothing there := by
    rw [paved] at there
    split at there
    · rename_i front
      exact Or.inl ⟨(Option.some.inj there).symm, front.1.trans part⟩
    · rw [nothing] at there
      contradiction
  idle there := absurd missing there

theorem completes_of_created (created : Config.Created before after directory)
    (missing : before.node? (Config.place directory) = none) : before.Completes after directory where
  kept place held there := by
    have apart : place ≠ Config.place directory := by
      rintro rfl
      rw [missing] at there
      contradiction
    rw [created, if_neg apart, if_neg fun absent => by simp [there] at absent, there]
  added place held nothing there := by
    rw [created] at there
    split at there
    · rename_i same
      exact Or.inr ⟨(Option.some.inj there).symm, same⟩
    · split at there
      · rename_i front
        exact Or.inl ⟨(Option.some.inj there).symm, front.1⟩
      · rw [nothing] at there
        contradiction
  idle there := absurd missing there

end FileSystem

namespace Config

variable {files : FileSystem} {directory : Path} (rooted : files.Rooted) (plain : PlainWay directory.steps)
include rooted plain

theorem load_completes : files.Completes (load files directory).2 directory := by
  have loading := load_loading rooted plain
  by_cases missing : files.node? (place directory) = none
  · cases loaded : (load files directory).1 with
    | error fault =>
      obtain ⟨-, made, part, paved⟩ := loading.trace_of_error loaded
      exact paved.completes part missing
    | ok config => exact FileSystem.completes_of_created (loading.created_of_ok missing loaded).2 missing
  · rw [(loading.of_present rooted missing).1]
    exact FileSystem.completes_nothing files directory

theorem present_of_load {config : Config} (loaded : (load files directory).1 = .ok config) :
    (load files directory).2.node? (place directory) ≠ none := by
  have loading := load_loading rooted plain
  by_cases missing : files.node? (place directory) = none
  · rw [(loading.created_of_ok missing loaded).2, if_pos rfl]
    exact Option.some_ne_none _
  · rwa [(loading.of_present rooted missing).1]

end Config

namespace CommandLine

def Leaves (before after : FileSystem) (invocation : Invocation) : Prop :=
  match invocation.configDirectory with
  | none => after = before
  | some directory => before.Completes after directory

theorem run_files (files : FileSystem) (invocation : Invocation) :
    (run files invocation).2 = (loadConfig files invocation.configDirectory).2 := by
  rw [run]
  split
  · rename_i loaded
    rw [loaded]
  · rename_i loaded
    rw [loaded]
    split
    · rfl
    · rfl

/-- All that a run reads is what was there once its configuration was loaded. -/
theorem run_congr {files others : FileSystem} {invocation : Invocation}
    (same : loadConfig others invocation.configDirectory = loadConfig files invocation.configDirectory) :
    run others invocation = run files invocation := by
  rw [run, run, same]

section Runs

variable {files : FileSystem} {invocation : Invocation} (rooted : files.Rooted)
  (plain : ∀ directory ∈ invocation.configDirectory, PlainWay directory.steps)
include rooted plain

theorem loadConfig_repeats :
    loadConfig (loadConfig files invocation.configDirectory).2 invocation.configDirectory =
      loadConfig files invocation.configDirectory := by
  cases given : invocation.configDirectory with
  | none => rfl
  | some directory =>
    have again := Config.load_repeats rooted (plain directory given)
    simp only [loadConfig, again]

theorem run_repeats : run (run files invocation).2 invocation = run files invocation := by
  rw [run_files]
  exact run_congr (loadConfig_repeats rooted plain)

theorem run_leaves : Leaves files (run files invocation).2 invocation := by
  rw [run_files, Leaves]
  cases given : invocation.configDirectory with
  | none => rfl
  | some directory => exact Config.load_completes rooted (plain directory given)

theorem config_of_run {text : String} (printed : (run files invocation).1 = .ok text) :
    ∀ directory ∈ invocation.configDirectory,
      (run files invocation).2.node? (Config.place directory) ≠ none := by
  intro directory given
  have given' : invocation.configDirectory = some directory := given
  rw [run_files, given']
  rw [run, given', loadConfig] at printed
  cases loaded : Config.load files directory with
  | mk result after =>
    cases result with
    | error fault =>
      rw [loaded] at printed
      contradiction
    | ok config => exact Config.present_of_load rooted (plain directory given) (congrArg Prod.fst loaded)

end Runs

section Replies

variable {files : FileSystem} {arguments : List String} {invocation : Invocation}
  (parsed : parse arguments = .ok invocation)
include parsed

theorem respond_files : (respond files arguments).2 = (run files invocation).2 := by
  rw [respond, parsed]
  dsimp only
  split
  · rename_i ran
    rw [ran]
  · rename_i ran
    rw [ran]

theorem respond_congr {others : FileSystem} (same : run others invocation = run files invocation) :
    respond others arguments = respond files arguments := by
  rw [respond, respond, parsed]
  dsimp only
  rw [same]

theorem printed_of_exitCode (succeeded : (respond files arguments).1.exitCode = 0) :
    ∃ text, (run files invocation).1 = .ok text := by
  rw [respond, parsed] at succeeded
  dsimp only at succeeded
  split at succeeded
  · rename_i text after ran
    exact ⟨text, by rw [ran]⟩
  · contradiction

end Replies

/-- Run once more, a command line prints the same or fails in the same way, and leaves the files as they are;
and the first run has changed nothing but to complete a missing configuration. -/
theorem respond_repeats {files : FileSystem} (rooted : files.Rooted) {arguments : List String}
    {invocation : Invocation} (parsed : parse arguments = .ok invocation)
    (plain : ∀ directory ∈ invocation.configDirectory, PlainWay directory.steps) :
    respond (respond files arguments).2 arguments = respond files arguments ∧
      Leaves files (respond files arguments).2 invocation ∧
      ((respond files arguments).1.exitCode = 0 → ∀ directory ∈ invocation.configDirectory,
        (respond files arguments).2.node? (Config.place directory) ≠ none) := by
  rw [respond_files parsed]
  refine ⟨respond_congr parsed (run_repeats rooted plain), run_leaves rooted plain, ?_⟩
  intro succeeded
  obtain ⟨text, printed⟩ := printed_of_exitCode parsed succeeded
  exact config_of_run rooted plain printed

/-- The first run makes the configuration and then takes its file for the catalogue, which it is not. -/
theorem own_configuration_as_catalogue :
    let arguments := ["--config-dir", "c/d", "search", "rust", "--catalog=c/d/bookshelf.json"]
    let invocation : Invocation := ⟨some ⟨"c/d/bookshelf.json"⟩, some ⟨"c/d"⟩, .search "rust" 1 none⟩
    FileSystem.empty.Rooted ∧ parse arguments = .ok invocation ∧
      (∀ directory ∈ invocation.configDirectory, PlainWay directory.steps) ∧
      (respond FileSystem.empty arguments).2.node? ["c", "d", "bookshelf.json"] =
        some (.file (Config.codec.writeIndented Config.standard).toUTF8) ∧
      Leaves FileSystem.empty (respond FileSystem.empty arguments).2 invocation ∧
      respond (respond FileSystem.empty arguments).2 arguments = respond FileSystem.empty arguments := by
  intro arguments invocation
  have parsed : parse arguments = .ok invocation := by decide +kernel
  have plainDirectory : PlainWay (⟨"c/d"⟩ : Path).steps := by decide
  have plain : ∀ directory ∈ invocation.configDirectory, PlainWay directory.steps := by
    intro directory given
    rwa [← Option.some.inj given]
  obtain ⟨again, leaves, -⟩ := respond_repeats FileSystem.empty_rooted parsed plain
  have loading := Config.load_loading FileSystem.empty_rooted plainDirectory
  have missing : FileSystem.empty.node? (Config.place ⟨"c/d"⟩) = none := by decide
  have made := loading.ok_of_free (by decide) ⟨by decide, by decide⟩
    (fun _ _ _ => by simp [FileSystem.node?_empty]) missing
  have created := (loading.created_of_ok missing made).2 (Config.place ⟨"c/d"⟩)
  rw [if_pos rfl] at created
  refine ⟨FileSystem.empty_rooted, parsed, plain, ?_, leaves, again⟩
  rw [respond_files parsed, run_files]
  exact created

end CommandLine
end BookSearch
