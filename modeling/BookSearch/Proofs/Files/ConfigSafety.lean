import Mathlib.Logic.Function.Iterate
import BookSearch.Proofs.Files.ConfigLoading

/-!
Loading a configuration is safe: a file that is there is only read; where there is none, the standard one is
put there and is what all later loads give. A load that fails leaves no trace, unless names are too long for
the system: directories may have been made before that is found.
-/
namespace BookSearch
namespace Config

section Results

variable {files : FileSystem} {directory : Path}

theorem load_decoded {home : Place} (standing : Standing files directory home)
    (whole : (file directory).isTooLong = false) {content : ByteArray} {text : String} {config : Config}
    (there : files.node? (home ++ [fileName]) = some (.file content))
    (written : String.fromUTF8? content = some text) (decoded : codec.read text = .ok config)
    (usable : config.Usable) : load files directory = (.ok config, files) := by
  have given : files.readText (file directory) = .ok text := by
    rw [FileSystem.readText, locate_standing standing, whole]
    simp only [Bool.false_eq_true, if_false, there, written]
  rw [load_found standing whole (by simp [there]), read, given]
  simp only [decoded, (check_ok_iff _ _ _).mpr ⟨rfl, usable⟩]

theorem created_paved {middle : FileSystem} (paved : files.Paved middle directory.steps)
    (missing : middle.node? (place directory) = none) :
    Created files (middle.put (place directory) (.file (codec.writeIndented standard).toUTF8)) directory := by
  intro place'
  split
  · rename_i same
    subst same
    exact FileSystem.node?_put_same _ _ _ (FileSystem.isGiven_of_node?_none missing)
  · rename_i other
    rw [FileSystem.node?_put_other _ _ _ _ other]
    exact paved place'

theorem load_created {middle : FileSystem} (plain : PlainWay directory.steps)
    (accepted : FileSystem.pathFault? directory = none) (stands : middle.isDirectory directory.steps = true)
    (whole : (file directory).isTooLong = false) (missing : middle.node? (place directory) = none) :
    let after := middle.put (place directory) (.file (codec.writeIndented standard).toUTF8)
    load after directory = (.ok standard, after) := by
  intro after
  have there : after.node? (place directory) = some (.file (codec.writeIndented standard).toUTF8) :=
    FileSystem.node?_put_same _ _ _ (FileSystem.isGiven_of_node?_none missing)
  have stands' : after.isDirectory directory.steps = true :=
    FileSystem.isDirectory_put_apart plain stands (place_not_on_way directory) _
  exact load_decoded (Standing.of_plain plain accepted stands') whole there (fromUTF8?_toUTF8 _) standard_reads_back
    standard_usable

theorem Fits.accepted (fits : Fits directory) (clean : directory.hasNul = false) :
    FileSystem.pathFault? directory = none := by
  have longer : directory.text.utf8ByteSize ≤ (file directory).text.utf8ByteSize := by
    rw [file, Path.join]
    split
    · simp_all
    · split <;> simp only [String.utf8ByteSize_append] <;> omega
  have whole := fits.whole
  simp only [Path.isTooLong, decide_eq_false_iff_not] at whole
  simp only [FileSystem.pathFault?, clean, Path.isTooLong, decide_eq_true_eq]
  rw [if_neg (by decide), if_neg (by omega)]

theorem readText_ok (plain : PlainWay directory.steps) {text : String}
    (given : files.readText (file directory) = .ok text) :
    ∃ content, files.node? (place directory) = some (.file content) ∧
      String.fromUTF8? content = some text := by
  have placed : ∀ {reached}, files.locate (file directory) = .ok reached → reached = place directory := by
    intro reached located
    rw [locate_file] at located
    split at located
    · contradiction
    · exact FileSystem.follow_plain_ok (plain_place plain) located
  rw [FileSystem.readText] at given
  cases located : files.locate (file directory) with
  | error fault => simp [located] at given
  | ok reached =>
    rw [located, placed located] at given
    cases node : files.node? (place directory) with
    | none => simp [node] at given
    | some held =>
      cases held with
      | directory => simp [node] at given
      | file content =>
        cases decoded : String.fromUTF8? content with
        | none => simp [node, decoded] at given
        | some text' =>
          simp only [node, decoded, Except.ok.injEq] at given
          exact ⟨content, rfl, by rw [decoded, given]⟩

end Results

def afterLoads (directory : Path) (count : Nat) (files : FileSystem) : FileSystem :=
  (fun files => (load files directory).2)^[count] files

structure LoadsSafely (files : FileSystem) (directory : Path) (loaded : Except ConfigError Config)
    (after : FileSystem) : Prop where
  failed : ∀ fault, loaded = .error fault →
    fault.toFailure.kind = .internal ∧ (Fits directory → after = files) ∧
      ∃ made, made <+: directory.steps ∧ files.Paved after made
  usable : ∀ config, loaded = .ok config → config.Usable
  existing : files.node? (place directory) ≠ none → after = files ∧
    ∀ config, loaded = .ok config → ∃ content text,
      files.node? (place directory) = some (.file content) ∧ String.fromUTF8? content = some text ∧
        codec.read text = .ok config
  missing : files.node? (place directory) = none → ∀ config, loaded = .ok config →
    config = standard ∧ Created files after directory
  again : ∀ config, loaded = .ok config → ∀ count,
    load (afterLoads directory count after) directory = (.ok config, after)
  /-- A usable configuration that is there is loaded. -/
  decodes : Fits directory → directory.hasNul = false → ∀ content text config,
    files.node? (place directory) = some (.file content) → String.fromUTF8? content = some text →
      codec.read text = .ok config → config.Usable → loaded = .ok config
  /-- A configuration is made where no file is in the way. -/
  makes : Fits directory → directory.hasNul = false →
    (∀ front content, front <+: directory.steps → files.node? front ≠ some (.file content)) →
      files.node? (place directory) = none → loaded = .ok standard

namespace Loading

variable {files : FileSystem} {directory : Path} {result : Except ConfigError Config × FileSystem}

theorem trace_of_error (loading : Loading files directory result) {fault : ConfigError}
    (failed : result.1 = .error fault) :
    (Fits directory → result.2 = files) ∧ ∃ made, made <+: directory.steps ∧ files.Paved result.2 made := by
  have untouched : ∃ made, made <+: directory.steps ∧ files.Paved files made :=
    ⟨[], List.nil_prefix, FileSystem.paved_nothing files⟩
  cases loading with
  | refused _ => exact ⟨fun _ => rfl, untouched⟩
  | stopped paving =>
    cases paving with
    | stopped part paved _ cause =>
      refine ⟨fun fits => ?_, _, part, paved⟩
      rcases cause with ⟨name, member, long⟩ | ⟨same, _⟩
      · rw [fits.names name member] at long
        contradiction
      · exact same
  | unwritable paving long =>
    cases paving with
    | done paved _ _ =>
      refine ⟨fun fits => ?_, _, List.prefix_refl _, paved⟩
      rw [fits.whole] at long
      contradiction
  | found _ => exact ⟨fun _ => rfl, untouched⟩
  | created _ _ _ _ => contradiction

theorem created_of_ok (loading : Loading files directory result) {config : Config}
    (missing : files.node? (place directory) = none) (loaded : result.1 = .ok config) :
    config = standard ∧ Created files result.2 directory := by
  cases loading with
  | refused _ => contradiction
  | stopped _ => contradiction
  | unwritable _ _ => contradiction
  | found there => exact absurd missing there
  | created _ paving _ free =>
    cases paving with
    | done paved _ _ => exact ⟨(Except.ok.inj loaded).symm, created_paved paved free⟩

theorem of_present (loading : Loading files directory result) (rooted : files.Rooted)
    (there : files.node? (place directory) ≠ none) :
    result.2 = files ∧ (result.1 = read files (file directory) ∨ ∃ fault, result.1 = .error fault) := by
  have around : files.node? directory.steps ≠ none := by simp [rooted directory.steps fileName there]
  cases loading with
  | refused _ => exact ⟨rfl, Or.inr ⟨_, rfl⟩⟩
  | stopped paving =>
    cases paving with
    | stopped _ _ idle _ => exact ⟨idle around, Or.inr ⟨_, rfl⟩⟩
  | unwritable paving _ =>
    cases paving with
    | done _ _ idle => exact ⟨idle around, Or.inr ⟨_, rfl⟩⟩
  | found _ => exact ⟨rfl, Or.inl rfl⟩
  | created _ paving _ free =>
    cases paving with
    | done _ _ idle =>
      rw [idle around] at free
      exact absurd free there

theorem ok_of_free (loading : Loading files directory result)
    (accepted : FileSystem.pathFault? directory = none) (fits : Fits directory)
    (free : ∀ front content, front <+: directory.steps → files.node? front ≠ some (.file content))
    (missing : files.node? (place directory) = none) : result.1 = .ok standard := by
  cases loading with
  | refused refused =>
    rw [accepted] at refused
    contradiction
  | stopped paving =>
    cases paving with
    | stopped _ _ _ cause =>
      rcases cause with ⟨name, member, long⟩ | ⟨_, front, content, part, node⟩
      · rw [fits.names name member] at long
        contradiction
      · exact absurd node (free front content part)
  | unwritable _ long =>
    rw [fits.whole] at long
    contradiction
  | found there => exact absurd missing there
  | created _ _ _ _ => rfl

theorem again (loading : Loading files directory result) (plain : PlainWay directory.steps)
    (same : load files directory = result) {config : Config} (loaded : result.1 = .ok config) :
    load result.2 directory = result := by
  cases loading with
  | refused _ => contradiction
  | stopped _ => contradiction
  | unwritable _ _ => contradiction
  | found _ => exact same
  | created accepted paving whole missing =>
    cases paving with
    | done _ stands _ => exact load_created plain accepted stands whole missing

end Loading

section Again

variable {files : FileSystem} {directory : Path} (rooted : files.Rooted) (plain : PlainWay directory.steps)
include rooted plain

theorem load_again {config : Config} {after : FileSystem}
    (loaded : load files directory = (.ok config, after)) : load after directory = (.ok config, after) := by
  have loading := load_loading rooted plain
  rw [loaded] at loading
  exact loading.again plain loaded rfl

/-- A load that failed fails in the same way again, and then leaves nothing more behind. -/
theorem load_stuck {fault : ConfigError} {after : FileSystem}
    (failed : load files directory = (.error fault, after)) : load after directory = (.error fault, after) := by
  have again := FileSystem.makeDirectories_repeats rooted plain
  cases made : files.makeDirectories directory with
  | mk result middle =>
    rw [made] at again
    have alike : load middle directory = load files directory := by rw [load, load, made, again]
    -- only a load that succeeds writes anything once the directories are made
    have kept : after = middle := by
      cases result with
      | error cause =>
        simp only [load, made] at failed
        exact (Prod.mk.inj failed).2.symm
      | ok _ =>
        simp only [load, made] at failed
        split at failed
        · exact (Prod.mk.inj failed).2.symm
        · split at failed
          · exact (Prod.mk.inj failed).2.symm
          · cases failed
    rw [kept, alike, failed, kept]

theorem load_repeats : load (load files directory).2 directory = load files directory := by
  cases loaded : load files directory with
  | mk result after =>
    cases result with
    | error fault => exact load_stuck rooted plain loaded
    | ok config => exact load_again rooted plain loaded

theorem afterLoads_of_ok {config : Config} {after : FileSystem}
    (loaded : load files directory = (.ok config, after)) (count : Nat) :
    afterLoads directory count after = after := by
  have settled : (load after directory).2 = after := by rw [load_again rooted plain loaded]
  exact Function.iterate_fixed settled count

theorem load_decodes (fits : Fits directory) (clean : directory.hasNul = false) {content : ByteArray}
    {text : String} {config : Config} (there : files.node? (place directory) = some (.file content))
    (written : String.fromUTF8? content = some text) (decoded : codec.read text = .ok config)
    (usable : config.Usable) : (load files directory).1 = .ok config := by
  have accepted := fits.accepted clean
  have present : files.node? (place directory) ≠ none := by simp [there]
  have inside := rooted directory.steps fileName present
  have stands : files.isDirectory directory.steps = true :=
    (FileSystem.isDirectory_iff_way plain).mpr ⟨fun _ part => rooted.directories inside part, fits.names⟩
  rw [load_decoded (Standing.of_plain plain accepted stands) fits.whole there written decoded usable]

end Again

/-- Whatever the files hold, loading a configuration gives a usable one and keeps giving it, or fails; and
all that it ever changes is to put a missing configuration in place. -/
theorem load_safe {files : FileSystem} (rooted : files.Rooted) {directory : Path}
    (plain : PlainWay directory.steps) :
    LoadsSafely files directory (load files directory).1 (load files directory).2 := by
  have loading := load_loading rooted plain
  refine
    { failed := fun fault failed => ⟨rfl, loading.trace_of_error failed⟩
      usable := fun config loaded => load_usable (Prod.ext loaded rfl)
      existing := ?existing
      missing := fun missing config loaded => loading.created_of_ok missing loaded
      again := ?again
      decodes := fun fits clean content text config there written decoded usable =>
        load_decodes rooted plain fits clean there written decoded usable
      makes := fun fits clean free missing => loading.ok_of_free (fits.accepted clean) fits free missing }
  case existing =>
    intro there
    obtain ⟨same, outcome⟩ := loading.of_present rooted there
    refine ⟨same, fun config loaded => ?_⟩
    rcases outcome with reading | ⟨fault, failed⟩
    · obtain ⟨_, text, given, decoded⟩ := read_ok (reading.symm.trans loaded)
      obtain ⟨content, node, written⟩ := readText_ok plain given
      exact ⟨content, text, node, written, decoded⟩
    · rw [failed] at loaded
      contradiction
  case again =>
    intro config loaded count
    have result : load files directory = (.ok config, (load files directory).2) := Prod.ext loaded rfl
    rw [afterLoads_of_ok rooted plain result, load_again rooted plain result]

theorem configuration_made :
    (load FileSystem.empty ⟨"a/b"⟩).1 = .ok standard ∧
      Created FileSystem.empty (load FileSystem.empty ⟨"a/b"⟩).2 ⟨"a/b"⟩ ∧
      load (load FileSystem.empty ⟨"a/b"⟩).2 ⟨"a/b"⟩ = (.ok standard, (load FileSystem.empty ⟨"a/b"⟩).2) := by
  have plain : PlainWay (⟨"a/b"⟩ : Path).steps := by decide
  have safe := load_safe FileSystem.empty_rooted plain
  have fits : Fits ⟨"a/b"⟩ := ⟨by decide, by decide⟩
  have missing : FileSystem.empty.node? (place ⟨"a/b"⟩) = none := by decide
  have free : ∀ front content, FileSystem.empty.node? front ≠ some (.file content) := by
    simp [FileSystem.node?_empty]
  have made := safe.makes fits (by decide) (fun front content _ => free front content) missing
  exact ⟨made, (safe.missing missing standard made).2, safe.again standard made 0⟩

section Overlong

def fill (count : Nat) : String := String.ofList (List.replicate count 'f')

def filled (count : Nat) : Path := ⟨"e/" ++ fill count⟩

theorem mem_fill {count : Nat} {c : Char} (member : c ∈ (fill count).toList) : c = 'f' := by
  rw [fill, String.toList_ofList] at member
  exact List.eq_of_mem_replicate member

theorem fill_isName {count : Nat} (positive : count ≠ 0) : Path.IsName (fill count) := by
  constructor
  · rw [fill, String.toList_ofList]
    simpa using positive
  · intro slash
    exact absurd (mem_fill slash) (by decide)

theorem filled_toList (count : Nat) : (filled count).text.toList = ['e'] ++ '/' :: (fill count).toList :=
  String.toList_append

theorem filled_steps {count : Nat} (positive : count ≠ 0) : (filled count).steps = ["e", fill count] := by
  rw [Path.steps_eq_names, filled_toList, Path.names_slash, Path.names_of_name (fill_isName positive)]
  rfl

theorem filled_hasNul (count : Nat) : (filled count).hasNul = false := by
  rw [Path.hasNul, ← Bool.not_eq_true, List.contains_iff_mem, filled_toList]
  intro nul
  have inside : '\x00' ∈ (fill count).toList := by simpa using nul
  exact absurd (mem_fill inside) (by decide)

theorem makeDirectories_overlong : FileSystem.empty.makeDirectories (filled 256) =
    (.error .nameTooLong, ⟨[(["e"], .directory)]⟩) := by
  have steps : (filled 256).steps = ["e", fill 256] := filled_steps (by decide)
  have plain : PlainWay (filled 256).steps := by
    rw [steps]
    decide +kernel
  have accepted : FileSystem.pathFault? (filled 256) = none := by
    rw [FileSystem.pathFault?, filled_hasNul]
    decide +kernel
  rw [FileSystem.makeDirectories, accepted, FileSystem.enclosing_of_plain plain, steps]
  decide +kernel

theorem overlong_name_leaves_directory :
    FileSystem.empty.Rooted ∧ PlainWay (filled 256).steps ∧
      (∃ fault, (load FileSystem.empty (filled 256)).1 = .error fault ∧ fault.toFailure.kind = .internal) ∧
      FileSystem.empty.node? ["e"] = none ∧
      (load FileSystem.empty (filled 256)).2.node? ["e"] = some .directory := by
  have plain : PlainWay (filled 256).steps := by
    rw [filled_steps (by decide)]
    decide +kernel
  refine ⟨FileSystem.empty_rooted, plain, ?_⟩
  rw [load, makeDirectories_overlong]
  exact ⟨⟨_, rfl, rfl⟩, by decide, by decide⟩

end Overlong

end Config
end BookSearch
