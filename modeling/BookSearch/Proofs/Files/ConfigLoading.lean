import BookSearch.Files.Documents
import BookSearch.Proofs.Files.Directories
import BookSearch.Proofs.Files.Steps
import BookSearch.Proofs.Files.Texts
import BookSearch.Proofs.Json.Payloads

/-!
What loading a configuration does to the files, one case for each way it can end. Where the directory stands, all
that can be wrong with the way to the file in it is its length. What passes the checks is usable.
-/
namespace BookSearch

open FileSystem (Paved Paving)

namespace Config

def fileName : String := "bookshelf.json"

def place (directory : Path) : Place := directory.steps ++ [fileName]

structure Usable (config : Config) : Prop where
  version : config.version = currentVersion
  positive : 1 ≤ config.search.defaultPageSize
  ordered : config.search.defaultPageSize ≤ config.search.maxPageSize
  bounded : config.search.maxPageSize ≤ 100

/-- No name on the way to the configuration file, and not its whole path, is too long for the system. -/
structure Fits (directory : Path) : Prop where
  names : ∀ name ∈ directory.steps, Path.isNameTooLong name = false
  whole : (file directory).isTooLong = false

/-- Besides the new file, only missing directories were added. -/
def Created (before after : FileSystem) (directory : Path) : Prop :=
  ∀ place, after.node? place =
    if place = Config.place directory then some (.file (codec.writeIndented standard).toUTF8)
    else if place <+: directory.steps ∧ (before.node? place).isNone then some .directory
    else before.node? place

inductive Loading (files : FileSystem) (directory : Path) : Except ConfigError Config × FileSystem → Prop where
  | refused {cause : SystemError} (refused : FileSystem.pathFault? directory = some cause) :
      Loading files directory (.error (.noDirectory directory cause), files)
  | stopped {cause : SystemError} {after : FileSystem}
      (paving : files.Paving directory.steps (.error cause, after)) :
      Loading files directory (.error (.noDirectory directory cause), after)
  | unwritable {cause : SystemError} {after : FileSystem}
      (paving : files.Paving directory.steps (.ok (), after)) (long : (file directory).isTooLong = true) :
      Loading files directory (.error (.unwritable (file directory) cause), after)
  | found (there : files.node? (place directory) ≠ none) :
      Loading files directory (read files (file directory), files)
  | created {middle : FileSystem} (accepted : FileSystem.pathFault? directory = none)
      (paving : files.Paving directory.steps (.ok (), middle)) (whole : (file directory).isTooLong = false)
      (missing : middle.node? (place directory) = none) :
      Loading files directory
        (.ok standard, middle.put (place directory) (.file (codec.writeIndented standard).toUTF8))

theorem fileName_isName : Path.IsName fileName := ⟨by decide, by decide⟩

theorem file_eq_join (directory : Path) : file directory = directory.join fileName := rfl

theorem plain_place {directory : Path} (plain : PlainWay directory.steps) : PlainWay (place directory) := by
  intro step member
  rcases List.mem_append.mp member with inner | last
  · exact plain step inner
  · rw [List.mem_singleton.mp last]
    decide

theorem place_not_on_way (directory : Path) : ¬ place directory <+: directory.steps :=
  FileSystem.not_concat_prefix_self directory.steps fileName

theorem locate_file (files : FileSystem) (directory : Path) :
    files.locate (file directory) =
      match FileSystem.pathFault? (file directory) with
      | some fault => .error fault
      | none => files.follow [] (place directory) := by
  rw [FileSystem.locate, file_eq_join, Path.stepsToFile_join fileName_isName]
  rfl

theorem pathFault?_file {directory : Path} (accepted : FileSystem.pathFault? directory = none) :
    FileSystem.pathFault? (file directory) =
      if (file directory).isTooLong then some .nameTooLong else none := by
  have clean : directory.hasNul = false := by
    by_contra nul
    rw [Bool.not_eq_false] at nul
    simp [FileSystem.pathFault?, nul] at accepted
  have clean' : (file directory).hasNul = false := by
    rw [Path.hasNul, ← Bool.not_eq_true, List.contains_iff_mem] at clean ⊢
    rwa [file_eq_join, Path.mem_join fileName_isName (by decide) (by decide)]
  simp [FileSystem.pathFault?, clean']

structure Standing (files : FileSystem) (directory : Path) (home : Place) : Prop where
  accepted : FileSystem.pathFault? directory = none
  walked : files.follow [] directory.steps = .ok home
  stands : files.node? home = some .directory

section Standing

variable {files : FileSystem} {directory : Path} {home : Place}

theorem Standing.of_plain (plain : PlainWay directory.steps) (accepted : FileSystem.pathFault? directory = none)
    (stands : files.isDirectory directory.steps = true) : Standing files directory directory.steps := by
  obtain ⟨walked, node⟩ := (FileSystem.isDirectory_iff plain).mp stands
  exact ⟨accepted, walked, node⟩

variable (standing : Standing files directory home)
include standing

theorem locate_standing : files.locate (file directory) =
    if (file directory).isTooLong then .error .nameTooLong else .ok (home ++ [fileName]) := by
  have walked : files.follow [] (place directory) = .ok (home ++ [fileName]) := by
    rw [place, FileSystem.follow_append, standing.walked]
    simp only [FileSystem.follow_step files (by decide : PlainWay [fileName]), standing.stands]
    exact if_neg (by decide)
  rw [locate_file, pathFault?_file standing.accepted]
  split
  · simp_all
  · simp_all

theorem contains_standing : files.contains (file directory) =
    (!(file directory).isTooLong && (files.node? (home ++ [fileName])).isSome) := by
  rw [FileSystem.contains, locate_standing standing]
  cases (file directory).isTooLong <;> rfl

theorem load_found (whole : (file directory).isTooLong = false)
    (there : files.node? (home ++ [fileName]) ≠ none) :
    load files directory = (read files (file directory), files) := by
  have holds : files.contains (file directory) = true := by
    rw [contains_standing standing, whole, Bool.not_false, Bool.true_and, Option.isSome_iff_ne_none]
    exact there
  rw [load, FileSystem.makeDirectories_standing standing.accepted standing.walked standing.stands]
  simp only [holds, if_pos]

theorem save_standing (whole : (file directory).isTooLong = false)
    (noDirectory : files.node? (home ++ [fileName]) ≠ some .directory) (config : Config) :
    save files (file directory) config =
      .ok (files.put (home ++ [fileName]) (.file (codec.writeIndented config).toUTF8)) := by
  have located := locate_standing standing
  rw [whole, if_neg Bool.false_ne_true] at located
  rw [save, FileSystem.writeText_of_located located noDirectory]

theorem save_too_long (long : (file directory).isTooLong = true) (config : Config) :
    save files (file directory) config = .error (.unwritable (file directory) .nameTooLong) := by
  rw [save, FileSystem.writeText, locate_standing standing, long]
  rfl

end Standing

theorem load_loading {files : FileSystem} (rooted : files.Rooted) {directory : Path}
    (plain : PlainWay directory.steps) : Loading files directory (load files directory) := by
  cases accepted : FileSystem.pathFault? directory with
  | some cause =>
    rw [load, files.makeDirectories_refused accepted]
    exact .refused accepted
  | none =>
    have paving := FileSystem.makeDirectories_paving rooted plain accepted
    rw [load]
    generalize files.makeDirectories directory = result at paving
    cases paving with
    | stopped part paved idle cause => exact .stopped (.stopped part paved idle cause)
    | @done after paved stands idle =>
      have paving : files.Paving directory.steps (.ok (), after) := .done paved stands idle
      have standing := Standing.of_plain plain accepted stands
      have holds : after.contains (file directory) =
          (!(file directory).isTooLong && (after.node? (place directory)).isSome) := contains_standing standing
      -- the file is no part of the way to it, so what was there is not touched by the paving
      have kept : after.node? (place directory) = files.node? (place directory) := by
        rw [paved, if_neg fun missing => place_not_on_way directory missing.1]
      dsimp only
      cases long : (file directory).isTooLong with
      | true =>
        rw [long, Bool.not_true, Bool.false_and] at holds
        rw [if_neg (by simp [holds]), save_too_long standing long]
        exact .unwritable paving long
      | false =>
        rw [long, Bool.not_false, Bool.true_and] at holds
        cases node : after.node? (place directory) with
        | none =>
          have noDirectory : after.node? (place directory) ≠ some .directory := by simp [node]
          rw [if_neg (by simp [holds, node]), save_standing standing long noDirectory]
          exact .created accepted paving long node
        | some held =>
          have there : files.node? (place directory) ≠ none := by simp [← kept, node]
          have directory' := rooted directory.steps fileName there
          have same := idle (by simp [directory'])
          subst same
          rw [if_pos (by simp [holds, node])]
          exact .found there

theorem validate_ok_iff (preferences : SearchPreferences) :
    preferences.validate = .ok () ↔ 1 ≤ preferences.defaultPageSize ∧
      preferences.defaultPageSize ≤ preferences.maxPageSize ∧ preferences.maxPageSize ≤ 100 := by
  have limit : SearchPreferences.pageSizeLimit.toNat = 100 := rfl
  have hundred : (100 : UInt32).toNat = 100 := rfl
  have one : (1 : UInt32).toNat = 1 := rfl
  simp only [SearchPreferences.validate, Bool.or_eq_true, decide_eq_true_eq, UInt32.lt_iff_toNat_lt,
    UInt32.le_iff_toNat_le, limit, hundred, one]
  split
  · simp only [reduceCtorEq, false_iff]
    omega
  · split
    · simp only [reduceCtorEq, false_iff]
      omega
    · simp only [true_iff]
      omega

theorem check_ok_iff (file : Path) (config loaded : Config) :
    check file config = .ok loaded ↔ loaded = config ∧ config.Usable := by
  have valid := validate_ok_iff config.search
  constructor
  · intro passed
    rw [check] at passed
    split at passed
    · contradiction
    · rename_i version
      cases checked : config.search.validate with
      | error cause => simp [checked] at passed
      | ok _ =>
        obtain ⟨positive, ordered, bounded⟩ := valid.mp checked
        simp only [checked, Except.ok.injEq] at passed
        exact ⟨passed.symm, Classical.not_not.mp version, positive, ordered, bounded⟩
  · rintro ⟨rfl, version, positive, ordered, bounded⟩
    rw [check, if_neg (by simp [version]), valid.mpr ⟨positive, ordered, bounded⟩]

theorem read_ok {files : FileSystem} {file : Path} {config : Config} (loaded : read files file = .ok config) :
    config.Usable ∧ ∃ text, files.readText file = .ok text ∧ codec.read text = .ok config := by
  rw [read] at loaded
  cases given : files.readText file with
  | error cause => simp [given] at loaded
  | ok text =>
    cases decoded : codec.read text with
    | error cause => simp [given, decoded] at loaded
    | ok config' =>
      simp only [given, decoded] at loaded
      obtain ⟨rfl, usable⟩ := (check_ok_iff _ _ _).mp loaded
      exact ⟨usable, text, rfl, decoded⟩

theorem standard_usable : standard.Usable := ⟨rfl, by decide, by decide, by decide⟩

theorem load_usable {files after : FileSystem} {directory : Path} {config : Config}
    (loaded : load files directory = (.ok config, after)) : config.Usable := by
  rw [load] at loaded
  split at loaded
  · simp at loaded
  · split at loaded
    · exact (read_ok (Prod.mk.inj loaded).1).1
    · split at loaded
      · simp at loaded
      · obtain ⟨same, _⟩ := Prod.mk.inj loaded
        rw [← Except.ok.inj same]
        exact standard_usable

theorem standard_reads_back : codec.read (codec.writeIndented standard) = .ok standard :=
  codec_faithful.readsBack.indented standard

end Config
end BookSearch
