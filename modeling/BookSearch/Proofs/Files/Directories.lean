import Mathlib.Data.List.Basic
import BookSearch.Proofs.Files.Walks

/-!
Making a directory with all that are missing around it. Either the way stands afterwards, or something is in
the way; what was there before is never touched, and directories are all that is added.
-/
namespace BookSearch
namespace FileSystem

/-- Between the two, directories were put on the way wherever nothing was, and nothing else happened. -/
def Paved (before after : FileSystem) (way : Place) : Prop :=
  ∀ place, after.node? place =
    if place <+: way ∧ (before.node? place).isNone then some .directory else before.node? place

inductive Paving (files : FileSystem) (way : Place) : Except SystemError Unit × FileSystem → Prop where
  | done {after : FileSystem} (paved : files.Paved after way) (stands : after.isDirectory way = true)
      (idle : files.node? way ≠ none → after = files) : Paving files way (.ok (), after)
  | stopped {fault : SystemError} {after : FileSystem} {made : Place} (part : made <+: way)
      (paved : files.Paved after made) (idle : files.node? way ≠ none → after = files)
      (cause : (∃ name ∈ way, Path.isNameTooLong name = true) ∨
        after = files ∧ ∃ front content, front <+: way ∧ files.node? front = some (.file content)) :
      Paving files way (.error fault, after)

/-- The ways to the places around the end of a way, innermost first. -/
def around (way : Place) : List Place :=
  (List.range way.length).reverse.filterMap fun n => if n = 0 then none else some (way.take n)

theorem around_concat (way : Place) (name : String) :
    around (way ++ [name]) = if way = [] then [] else way :: around way := by
  have inner : ∀ n ∈ (List.range way.length).reverse,
      (if n = 0 then none else some ((way ++ [name]).take n)) = if n = 0 then none else some (way.take n) := by
    intro n member
    rw [List.mem_reverse, List.mem_range] at member
    rw [List.take_append_of_le_length (Nat.le_of_lt member)]
  rw [around, List.length_append, List.length_singleton, List.range_succ, List.reverse_append,
    List.reverse_singleton, List.singleton_append, List.filterMap_cons, List.filterMap_congr inner]
  by_cases empty : way = []
  · subst empty
    rfl
  · simp [empty, around]

theorem enclosing_of_plain {path : Path} (plain : PlainWay path.steps) :
    path.enclosing = path.steps :: around path.steps := by
  have kept : path.steps.filter (· ≠ Path.here) = path.steps := by
    rw [List.filter_eq_self]
    intro step member
    simpa using (plain step member).1
  rw [Path.enclosing, kept]
  rfl

theorem not_concat_prefix_self (way : Place) (name : String) : ¬ way ++ [name] <+: way := by
  intro part
  have shorter := part.length_le
  rw [List.length_append, List.length_singleton] at shorter
  omega

theorem isGiven_of_node?_none {files : FileSystem} {place : Place} (nothing : files.node? place = none) :
    isGiven place = false := by
  have noDirectory : files.node? place ≠ some .directory := by simp [nothing]
  exact isGiven_of_no_directory noDirectory

theorem paved_of_stands {files : FileSystem} {way : Place} (plain : PlainWay way)
    (stands : files.isDirectory way = true) : files.Paved files way := by
  intro place
  split
  · rename_i missing
    have directory := ((isDirectory_iff_way plain).mp stands).1 place missing.1
    simp [directory] at missing
  · rfl

theorem paved_nothing (files : FileSystem) : files.Paved files [] := by
  intro place
  split
  · rename_i missing
    rw [List.prefix_nil] at missing
    simp [missing.1, node?_here] at missing
  · rfl

theorem Paved.missing {before after : FileSystem} {way : Place} {name : String}
    (paved : before.Paved after way) (nothing : before.node? (way ++ [name]) = none) :
    after.node? (way ++ [name]) = none := by
  rw [paved, if_neg fun missing => not_concat_prefix_self way name missing.1, nothing]

theorem Paved.concat {before after : FileSystem} {way : Place} {name : String}
    (paved : before.Paved after way) (nothing : after.node? (way ++ [name]) = none) :
    before.Paved (after.put (way ++ [name]) .directory) (way ++ [name]) := by
  intro place
  by_cases same : place = way ++ [name]
  · subst same
    have free : before.node? (way ++ [name]) = none := by
      rw [← nothing, paved, if_neg fun missing => not_concat_prefix_self way name missing.1]
    rw [node?_put_same _ _ _ (isGiven_of_node?_none nothing)]
    simp [free]
  · rw [node?_put_other _ _ _ _ same, paved]
    simp only [List.prefix_concat_iff, same, false_or]

variable {files : FileSystem} {way : Place} {name : String}

theorem isDirectory_put_apart (plain : PlainWay way) (stands : files.isDirectory way = true) {place : Place}
    (apart : ¬ place <+: way) (node : Node) : (files.put place node).isDirectory way = true := by
  obtain ⟨above, short⟩ := (isDirectory_iff_way plain).mp stands
  refine (isDirectory_iff_way plain).mpr ⟨?_, short⟩
  intro front part
  have other : front ≠ place := by
    rintro rfl
    exact apart part
  rw [node?_put_other _ _ _ _ other]
  exact above front part

theorem isDirectory_put (plain : PlainWay (way ++ [name])) (stands : files.isDirectory way = true)
    (short : Path.isNameTooLong name = false) (nothing : files.node? (way ++ [name]) = none) :
    (files.put (way ++ [name]) .directory).isDirectory (way ++ [name]) = true := by
  have around := isDirectory_put_apart plain.front stands (not_concat_prefix_self way name) .directory
  have walked := (follow_concat_ok_iff plain).mpr ⟨around, short⟩
  exact (isDirectory_iff plain).mpr ⟨walked, node?_put_same _ _ _ (isGiven_of_node?_none nothing)⟩

theorem makeDirectory_cases (files : FileSystem) (plain : PlainWay way) :
    (files.makeDirectory way = .ok (files.put way .directory) ∧ files.follow [] way = .ok way ∧
      files.node? way = none) ∨
    (files.makeDirectory way = .error .alreadyExists ∧ files.follow [] way = .ok way ∧
      ∃ held, files.node? way = some held) ∨
    (∃ fault, files.makeDirectory way = .error fault ∧ files.follow [] way = .error fault) := by
  rw [makeDirectory]
  cases walked : files.follow [] way with
  | error fault => exact Or.inr (Or.inr ⟨fault, rfl, rfl⟩)
  | ok reached =>
    rw [follow_plain_ok plain walked]
    cases node : files.node? way with
    | none => exact Or.inl (by simp [node])
    | some held => exact Or.inr (Or.inl (by simp [node]))

theorem makeDirectory_concat (plain : PlainWay (way ++ [name])) (stands : files.isDirectory way = true)
    (nothing : files.node? (way ++ [name]) = none) :
    files.makeDirectory (way ++ [name]) =
      if Path.isNameTooLong name then .error .nameTooLong
      else .ok (files.put (way ++ [name]) .directory) := by
  obtain ⟨walked, directory⟩ := (isDirectory_iff plain.front).mp stands
  rw [makeDirectory, follow_concat plain, walked]
  cases long : Path.isNameTooLong name with
  | true => simp [directory]
  | false => simp [directory, nothing]

theorem paving_unmade (plain : PlainWay way) {fault : SystemError}
    (failed : files.makeDirectory way = .error fault) (present : fault ≠ .notFound) :
    files.Paving way (if files.isDirectory way then .ok () else .error fault, files) := by
  split
  · rename_i stands
    exact .done (paved_of_stands plain stands) stands fun _ => rfl
  · rename_i hindered
    refine .stopped List.nil_prefix (paved_nothing files) (fun _ => rfl) ?_
    rcases files.makeDirectory_cases plain with ⟨made, _⟩ | ⟨_, walked, held, node⟩ | ⟨fault', same, stopped⟩
    · rw [made] at failed
      contradiction
    · cases held with
      | directory => exact absurd ((isDirectory_iff plain).mpr ⟨walked, node⟩) hindered
      | file content => exact Or.inr ⟨rfl, way, content, List.prefix_refl way, node⟩
    · rw [same, Except.error.injEq] at failed
      subst failed
      rcases follow_fault plain stopped with ⟨kind, _⟩ | ⟨_, file⟩ | ⟨_, long⟩
      · exact absurd kind present
      · exact Or.inr ⟨rfl, file⟩
      · exact Or.inl long

theorem paving_made (plain : PlainWay (way ++ [name])) {made : FileSystem}
    (succeeded : files.makeDirectory (way ++ [name]) = .ok made) :
    files.Paving (way ++ [name]) (.ok (), made) := by
  rcases files.makeDirectory_cases plain with ⟨same, walked, nothing⟩ | ⟨failed, _⟩ | ⟨fault, failed, _⟩
  · rw [same, Except.ok.injEq] at succeeded
    subst succeeded
    obtain ⟨stands, short⟩ := (follow_concat_ok_iff plain).mp walked
    exact .done ((paved_of_stands plain.front stands).concat nothing)
      (isDirectory_put plain stands short nothing) fun there => absurd nothing there
  · rw [failed] at succeeded
    contradiction
  · rw [failed] at succeeded
    contradiction

theorem none_of_makeDirectory (rooted : files.Rooted) (plain : PlainWay way)
    (missing : files.makeDirectory way = .error .notFound) : files.node? way = none := by
  rcases files.makeDirectory_cases plain with ⟨made, _⟩ | ⟨there, _⟩ | ⟨fault, same, stopped⟩
  · rw [made] at missing
    contradiction
  · rw [there] at missing
    contradiction
  · rw [same, Except.error.injEq] at missing
    subst missing
    rcases follow_fault plain stopped with ⟨_, front, part, nothing⟩ | ⟨kind, _⟩ | ⟨kind, _⟩
    · exact rooted.none_below part nothing
    · contradiction
    · contradiction

theorem paving_concat (plain : PlainWay (way ++ [name])) {middle : FileSystem}
    (nothing : files.node? (way ++ [name]) = none) (paved : files.Paved middle way)
    (stands : middle.isDirectory way = true) :
    files.Paving (way ++ [name])
      (match middle.makeDirectory (way ++ [name]) with
        | .ok made => (.ok (), made)
        | .error fault => (if middle.isDirectory (way ++ [name]) then .ok () else .error fault, middle)) := by
  have still := paved.missing nothing
  have absent : middle.isDirectory (way ++ [name]) ≠ true := by
    intro there
    have directory := ((isDirectory_iff plain).mp there).2
    rw [still] at directory
    contradiction
  have idle : ∀ {after : FileSystem}, files.node? (way ++ [name]) ≠ none → after = files :=
    fun there => absurd nothing there
  rw [makeDirectory_concat plain stands still]
  cases long : Path.isNameTooLong name with
  | true =>
    simp only [if_pos, if_neg absent]
    exact .stopped (List.prefix_append way [name]) paved idle (Or.inl ⟨name, by simp, long⟩)
  | false => exact .done (paved.concat still) (isDirectory_put plain stands long still) idle

theorem makeFirst_paving (rooted : files.Rooted) (plain : PlainWay way) :
    files.Paving way (files.makeFirst (way :: around way)) := by
  -- from the outermost place to the innermost, as the missing ones are made
  induction way using List.reverseRecOn with
  | nil => exact .done (paved_nothing files) rfl fun _ => rfl
  | append_singleton inner name ih =>
    rw [makeFirst, around_concat]
    cases first : files.makeDirectory (inner ++ [name]) with
    | ok made => exact paving_made plain first
    | error fault =>
      cases fault with
      | notFound =>
        have nothing := none_of_makeDirectory rooted plain first
        have outer : files.Paving inner
            (files.makeFirst (if inner = [] then [] else inner :: around inner)) := by
          split
          · rename_i top
            subst top
            exact .done (paved_nothing files) rfl fun _ => rfl
          · exact ih plain.front
        dsimp only
        generalize files.makeFirst (if inner = [] then [] else inner :: around inner) = result at outer
        cases outer with
        | done paved stands _ => exact paving_concat plain nothing paved stands
        | stopped part paved _ cause =>
          have inside : inner <+: inner ++ [name] := List.prefix_append inner [name]
          refine .stopped (part.trans inside) paved (fun there => absurd nothing there) ?_
          rcases cause with ⟨long, member, tooLong⟩ | ⟨same, front, content, above, file⟩
          · exact Or.inl ⟨long, List.mem_append_left _ member, tooLong⟩
          · exact Or.inr ⟨same, front, content, above.trans inside, file⟩
      | _ => exact paving_unmade plain first (by decide)

theorem makeDirectories_paving (rooted : files.Rooted) {path : Path} (plain : PlainWay path.steps)
    (accepted : pathFault? path = none) : files.Paving path.steps (files.makeDirectories path) := by
  rw [makeDirectories, accepted, enclosing_of_plain plain]
  exact makeFirst_paving rooted plain

theorem makeFirst_around_paving (rooted : files.Rooted) (plain : PlainWay way) :
    files.Paving way (files.makeFirst (if way = [] then [] else way :: around way)) := by
  split
  · rename_i top
    subst top
    exact .done (paved_nothing files) rfl fun _ => rfl
  · exact makeFirst_paving rooted plain

/-- What stopped it after some directories were made is a name that no directory can hold, and that name is in
the way from the beginning when it is tried again. -/
theorem makeFirst_stuck (rooted : files.Rooted) (plain : PlainWay way) {fault : SystemError}
    {after : FileSystem} (failed : files.makeFirst (way :: around way) = (.error fault, after)) :
    after = files ∨ (fault = .nameTooLong ∧ after.follow [] way = .error .nameTooLong) := by
  induction way using List.reverseRecOn generalizing fault after with
  | nil =>
    have stands : files.makeFirst ([] :: around []) = (.ok (), files) := rfl
    rw [stands] at failed
    cases failed
  | append_singleton inner name ih =>
    rw [makeFirst, around_concat] at failed
    cases first : files.makeDirectory (inner ++ [name]) with
    | ok made => simp [first] at failed
    | error cause =>
      cases cause with
      | notFound =>
        have nothing := none_of_makeDirectory rooted plain first
        have outer := makeFirst_around_paving rooted plain.front
        have stuck : files.makeFirst (if inner = [] then [] else inner :: around inner) = (.error fault, after) →
            after = files ∨ (fault = .nameTooLong ∧ after.follow [] inner = .error .nameTooLong) := by
          split
          · intro stopped
            cases stopped
          · exact ih plain.front
        simp only [first] at failed
        generalize files.makeFirst (if inner = [] then [] else inner :: around inner) = result at outer stuck failed
        cases outer with
        | stopped _ _ _ _ =>
          rcases stuck failed with same | ⟨kind, stopped⟩
          · exact Or.inl same
          · exact Or.inr ⟨kind, by rw [follow_append, stopped]⟩
        | @done middle paved stands _ =>
          have still := paved.missing nothing
          obtain ⟨walked, directory⟩ := (isDirectory_iff plain.front).mp stands
          simp only [makeDirectory_concat plain stands still] at failed
          cases long : Path.isNameTooLong name with
          | true =>
            have stopped : middle.follow [] (inner ++ [name]) = .error .nameTooLong := by
              rw [follow_concat plain, walked]
              simp only [directory, long, if_pos]
            have absent : middle.isDirectory (inner ++ [name]) = false := by rw [isDirectory, stopped]
            simp only [long, if_pos, absent, Bool.false_eq_true, if_false, Prod.mk.injEq, Except.error.injEq] at failed
            obtain ⟨rfl, rfl⟩ := failed
            exact Or.inr ⟨rfl, stopped⟩
          | false =>
            simp [long] at failed
      | _ =>
        left
        simp only [first] at failed
        exact (Prod.mk.inj failed).2.symm

theorem makeDirectories_standing {path : Path} {home : Place} (accepted : pathFault? path = none)
    (walked : files.follow [] path.steps = .ok home) (stands : files.node? home = some .directory) :
    files.makeDirectories path = (.ok (), files) := by
  have there : files.makeDirectory path.steps = .error .alreadyExists := by
    rw [makeDirectory, walked]
    simp [stands]
  have known : files.isDirectory path.steps = true := by
    rw [isDirectory, walked]
    simp [stands]
  rw [makeDirectories, accepted, Path.enclosing]
  simp only [makeFirst, there, known, if_pos]

theorem makeDirectories_refused (files : FileSystem) {path : Path} {fault : SystemError}
    (refused : pathFault? path = some fault) : files.makeDirectories path = (.error fault, files) := by
  rw [makeDirectories, refused]

theorem makeDirectories_stuck (rooted : files.Rooted) {path : Path} (plain : PlainWay path.steps)
    {fault : SystemError} {after : FileSystem} (failed : files.makeDirectories path = (.error fault, after)) :
    after.makeDirectories path = (.error fault, after) := by
  cases accepted : pathFault? path with
  | some refusal =>
    rw [makeDirectories_refused _ accepted] at failed ⊢
    rw [(Prod.mk.inj failed).1]
  | none =>
    have whole := failed
    rw [makeDirectories, accepted, enclosing_of_plain plain] at failed
    rcases makeFirst_stuck rooted plain failed with rfl | ⟨rfl, stopped⟩
    · exact whole
    · have unmade : after.makeDirectory path.steps = .error .nameTooLong := by rw [makeDirectory, stopped]
      have absent : after.isDirectory path.steps = false := by rw [isDirectory, stopped]
      simp only [makeDirectories, accepted, enclosing_of_plain plain, makeFirst, unmade, absent,
        Bool.false_eq_true, if_false]

theorem makeDirectories_settled (rooted : files.Rooted) {path : Path} (plain : PlainWay path.steps)
    {after : FileSystem} (made : files.makeDirectories path = (.ok (), after)) :
    after.makeDirectories path = (.ok (), after) := by
  cases accepted : pathFault? path with
  | some refusal =>
    rw [makeDirectories_refused _ accepted] at made
    cases made
  | none =>
    have paving := makeDirectories_paving rooted plain accepted
    rw [made] at paving
    cases paving with
    | done _ stands _ =>
      obtain ⟨walked, directory⟩ := (isDirectory_iff plain).mp stands
      exact makeDirectories_standing accepted walked directory

/-- Directories that are made once more are made as they were, or not made for the same reason. -/
theorem makeDirectories_repeats (rooted : files.Rooted) {path : Path} (plain : PlainWay path.steps) :
    (files.makeDirectories path).2.makeDirectories path = files.makeDirectories path := by
  cases made : files.makeDirectories path with
  | mk result after =>
    cases result with
    | error fault => exact makeDirectories_stuck rooted plain made
    | ok _ => exact makeDirectories_settled rooted plain made

end FileSystem
end BookSearch
