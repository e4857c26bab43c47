import BookSearch.Proofs.Files.ConfigLoading

/-!
A configuration that is saved in a directory is what the directory loads from then on, if it is usable; if it
is not, the load is refused. What the file held before cannot be told any more.
-/
namespace BookSearch
namespace Config

/-- What was saved of a configuration in the directory at `home`, and how the next load of it ends. -/
structure Saved (config : Config) (directory : Path) (home : Place) (before after : FileSystem) : Prop where
  loads_iff : (load after directory).1 = .ok config ↔ config.Usable
  loads_no_other : ∀ other, (load after directory).1 = .ok other → other = config
  refused : ¬ config.Usable →
    ∃ fault, (load after directory).1 = .error fault ∧ fault.toFailure.kind = .internal
  /-- The outcome is that of the checks on the configuration, whatever was in the file before. -/
  outcome : load after directory = (check (file directory) config, after)
  written : after.node? (home ++ [fileName]) = some (.file (codec.writeIndented config).toUTF8)
  elsewhere : ∀ place, place ≠ home ++ [fileName] → after.node? place = before.node? place

section Standing

variable {files : FileSystem} {directory : Path} {home : Place}

theorem Standing.put (standing : Standing files directory home) {written : Place}
    (noDirectory : files.node? written ≠ some .directory) (node : Node) :
    Standing (files.put written node) directory home where
  accepted := standing.accepted
  walked := FileSystem.follow_put noDirectory node standing.walked
  stands := by
    have apart : home ≠ written := by
      rintro rfl
      exact noDirectory standing.stands
    rw [FileSystem.node?_put_other _ _ _ _ apart, standing.stands]

section Written

variable {config : Config} {after : FileSystem} (standing : Standing files directory home)
  (noDirectory : files.node? (home ++ [fileName]) ≠ some .directory)
  (saved : save files (file directory) config = .ok after)
include standing noDirectory saved

theorem put_of_save : (file directory).isTooLong = false ∧
    after = files.put (home ++ [fileName]) (.file (codec.writeIndented config).toUTF8) := by
  cases whole : (file directory).isTooLong with
  | true =>
    rw [save_too_long standing whole] at saved
    contradiction
  | false =>
    rw [save_standing standing whole noDirectory, Except.ok.injEq] at saved
    exact ⟨rfl, saved.symm⟩

theorem written_of_save : after.node? (home ++ [fileName]) = some (.file (codec.writeIndented config).toUTF8) := by
  rw [(put_of_save standing noDirectory saved).2]
  exact FileSystem.node?_put_same _ _ _ (FileSystem.isGiven_of_no_directory noDirectory)

theorem load_saved : load after directory = (check (file directory) config, after) := by
  obtain ⟨whole, put⟩ := put_of_save standing noDirectory saved
  have located := locate_standing standing
  rw [whole, if_neg Bool.false_ne_true] at located
  have holds := FileSystem.holds_put located noDirectory (codec.writeIndented config)
  have standing' := standing.put noDirectory (.file (codec.writeIndented config).toUTF8)
  rw [← put] at holds standing'
  have there : after.node? (home ++ [fileName]) ≠ none := by
    simp [written_of_save standing noDirectory saved]
  rw [load_found standing' whole there, read, FileSystem.readText_of_holds holds]
  simp only [codec_faithful.readsBack.indented config]

end Written

/-- A configuration can be saved in every directory whose file has a path that is not too long, and is loaded
from there again just if it is usable. -/
theorem saved_loads_iff_usable (standing : Standing files directory home)
    (noDirectory : files.node? (home ++ [fileName]) ≠ some .directory) (config : Config) :
    ((∃ after, save files (file directory) config = .ok after) ↔ (file directory).isTooLong = false) ∧
      ∀ after, save files (file directory) config = .ok after → Saved config directory home files after := by
  constructor
  · constructor
    · rintro ⟨after, saved⟩
      exact (put_of_save standing noDirectory saved).1
    · intro whole
      exact ⟨_, save_standing standing whole noDirectory config⟩
  · intro after saved
    have outcome := load_saved standing noDirectory saved
    have passes := check_ok_iff (file directory) config
    constructor
    · rw [outcome, passes]
      exact and_iff_right rfl
    · intro other loaded
      rw [outcome] at loaded
      exact ((passes other).mp loaded).1
    · intro unusable
      cases checked : check (file directory) config with
      | ok other => exact absurd ((passes other).mp checked).2 unusable
      | error fault => exact ⟨fault, by rw [outcome, checked], rfl⟩
    · exact outcome
    · exact written_of_save standing noDirectory saved
    · intro place other
      rw [(put_of_save standing noDirectory saved).2, FileSystem.node?_put_other _ _ _ _ other]

end Standing

section Detour

def worn : FileSystem :=
  (FileSystem.empty.put ["a"] .directory).put ["a", fileName] (.file "no longer than this".toUTF8)

def detour : Path := ⟨"a//../a/./"⟩

def widest : Config where
  version := currentVersion
  search := { defaultPageSize := 100, maxPageSize := 100 }
  popularity :=
    { enabled := false, counterKey := "a\"b\\c\x00Σ📚", topK := 18446744073709551615,
      readTimeoutMs := 0 }

theorem detour_loads_back :
    Standing worn detour ["a"] ∧ worn.node? (["a"] ++ [fileName]) ≠ some .directory ∧
      (∃ after, save worn (file detour) widest = .ok after ∧ (load after detour).1 = .ok widest) ∧
      ∃ after fault, save worn (file detour) { widest with version := "1.0.0 " } = .ok after ∧
        (load after detour).1 = .error fault ∧ fault.toFailure.kind = .internal := by
  have standing : Standing worn detour ["a"] := ⟨by decide, by decide, by decide⟩
  have noDirectory : worn.node? (["a"] ++ [fileName]) ≠ some .directory := by decide
  obtain ⟨saves, loads⟩ := saved_loads_iff_usable standing noDirectory widest
  obtain ⟨saves', loads'⟩ := saved_loads_iff_usable standing noDirectory { widest with version := "1.0.0 " }
  have whole : (file detour).isTooLong = false := by decide
  obtain ⟨after, saved⟩ := saves.mpr whole
  obtain ⟨after', saved'⟩ := saves'.mpr whole
  have usable : widest.Usable := ⟨rfl, by decide, by decide, by decide⟩
  have unusable : ¬ { widest with version := "1.0.0 " : Config }.Usable := fun usable =>
    absurd usable.version (by decide)
  obtain ⟨fault, refused, internal⟩ := (loads' after' saved').refused unusable
  exact ⟨standing, noDirectory, ⟨after, saved, (loads after saved).loads_iff.mpr usable⟩,
    after', fault, saved', refused, internal⟩

end Detour

end Config
end BookSearch
