import Mathlib.Data.List.Induction
import BookSearch.Files.System

/-!
Walks through directories by steps that neither stay nor go up. Such a walk ends at the place that has its
steps as names, needs a directory at every place before that, and tells by its fault what stood in the way.
-/
namespace BookSearch

def PlainWay (way : List String) : Prop := ∀ step ∈ way, step ≠ Path.here ∧ step ≠ Path.up

instance (way : List String) : Decidable (PlainWay way) :=
  inferInstanceAs (Decidable (∀ step ∈ way, step ≠ Path.here ∧ step ≠ Path.up))

def FileSystem.Rooted (files : FileSystem) : Prop :=
  ∀ place name, files.node? (place ++ [name]) ≠ none → files.node? place = some .directory

theorem PlainWay.of_prefix {way front : List String} (plain : PlainWay way) (part : front <+: way) :
    PlainWay front :=
  fun step member => plain step (part.subset member)

theorem PlainWay.front {way : List String} {name : String} (plain : PlainWay (way ++ [name])) :
    PlainWay way :=
  plain.of_prefix (List.prefix_append way [name])

namespace FileSystem

variable {files : FileSystem}

theorem node?_here (files : FileSystem) : files.node? [] = some .directory := rfl

theorem isGiven_of_no_directory {place : Place} (noDirectory : files.node? place ≠ some .directory) :
    isGiven place = false := by
  cases given : isGiven place with
  | false => rfl
  | true => exact absurd (by simp [node?, given]) noDirectory

theorem Rooted.directory_above (rooted : files.Rooted) {place : Place} :
    ∀ {inner : Place}, place <+: inner → files.node? inner ≠ none →
      place = inner ∨ files.node? place = some .directory := by
  intro inner
  induction inner using List.reverseRecOn with
  | nil =>
    intro part _
    exact Or.inl (List.prefix_nil.mp part)
  | append_singleton around name ih =>
    intro part there
    have directory := rooted around name there
    rcases List.prefix_concat_iff.mp part with same | above
    · exact Or.inl same
    · rcases ih above (by simp [directory]) with rfl | directory'
      · exact Or.inr directory
      · exact Or.inr directory'

theorem Rooted.none_below (rooted : files.Rooted) {place inner : Place} (part : place <+: inner)
    (nothing : files.node? place = none) : files.node? inner = none := by
  by_contra there
  rcases rooted.directory_above part there with rfl | directory
  · exact there nothing
  · rw [nothing] at directory
    contradiction

theorem Rooted.directories (rooted : files.Rooted) {place : Place}
    (directory : files.node? place = some .directory) {front : Place} (part : front <+: place) :
    files.node? front = some .directory := by
  rcases rooted.directory_above part (by simp [directory]) with rfl | above
  · exact directory
  · exact above

theorem node?_empty (place : Place) : empty.node? place = if isGiven place then some .directory else none := rfl

theorem empty_rooted : empty.Rooted := by
  intro place name there
  have given : isGiven (place ++ [name]) = true := by
    by_contra free
    exact there (by simp [node?_empty, free])
  have above : isGiven place = true := by
    simp only [isGiven, Bool.or_eq_true, decide_eq_true_eq, List.all_append, Bool.and_eq_true] at given ⊢
    rcases given with ⟨ups, _⟩ | root
    · exact Or.inl ups
    · rw [List.append_eq_singleton_iff] at root
      rcases root with ⟨rfl, _⟩ | ⟨_, absurd'⟩
      · exact Or.inl rfl
      · contradiction
  simp [node?_empty, above]

theorem follow_append (files : FileSystem) (place : Place) (first second : List String) :
    files.follow place (first ++ second) =
      match files.follow place first with
      | .error fault => .error fault
      | .ok reached => files.follow reached second := by
  induction first generalizing place with
  | nil => rfl
  | cons step rest ih =>
    rw [List.cons_append, follow, follow]
    cases files.node? place with
    | none => rfl
    | some node =>
      cases node with
      | file content => rfl
      | directory =>
        dsimp only
        split
        · exact ih place
        · split
          · exact ih (outer place)
          · split
            · rfl
            · exact ih (place ++ [step])

theorem follow_step (files : FileSystem) {place : Place} {step : String} (plain : PlainWay [step]) :
    files.follow place [step] =
      match files.node? place with
      | none => .error .notFound
      | some (.file _) => .error .notDirectory
      | some .directory =>
        if Path.isNameTooLong step then .error .nameTooLong else .ok (place ++ [step]) := by
  obtain ⟨stays, rises⟩ := plain step List.mem_cons_self
  rw [follow, if_neg stays, if_neg rises]
  rfl

theorem follow_plain_ok {way : List String} (plain : PlainWay way) {reached : Place}
    (walked : files.follow [] way = .ok reached) : reached = way := by
  induction way using List.reverseRecOn generalizing reached with
  | nil => exact (Except.ok.inj walked).symm
  | append_singleton around name ih =>
    have last : PlainWay [name] := fun step member => plain step (List.mem_append_right around member)
    rw [follow_append] at walked
    cases front : files.follow [] around with
    | error fault => simp [front] at walked
    | ok middle =>
      simp only [front, follow_step files last] at walked
      rw [ih plain.front front] at walked
      split at walked
      · contradiction
      · contradiction
      · split at walked
        · contradiction
        · exact (Except.ok.inj walked).symm

theorem follow_concat {way : List String} {name : String} (plain : PlainWay (way ++ [name])) :
    files.follow [] (way ++ [name]) =
      match files.follow [] way with
      | .error fault => .error fault
      | .ok _ =>
        match files.node? way with
        | none => .error .notFound
        | some (.file _) => .error .notDirectory
        | some .directory =>
          if Path.isNameTooLong name then .error .nameTooLong else .ok (way ++ [name]) := by
  have last : PlainWay [name] := fun step member => plain step (List.mem_append_right way member)
  rw [follow_append]
  cases front : files.follow [] way with
  | error fault => rfl
  | ok reached =>
    rw [follow_plain_ok plain.front front]
    exact follow_step files last

theorem isDirectory_iff {way : List String} (plain : PlainWay way) :
    files.isDirectory way = true ↔
      files.follow [] way = .ok way ∧ files.node? way = some .directory := by
  rw [isDirectory]
  cases walked : files.follow [] way with
  | error fault => simp
  | ok reached => simp [follow_plain_ok plain walked]

theorem follow_concat_ok_iff {way : List String} {name : String} (plain : PlainWay (way ++ [name])) :
    files.follow [] (way ++ [name]) = .ok (way ++ [name]) ↔
      files.isDirectory way = true ∧ Path.isNameTooLong name = false := by
  rw [follow_concat plain, isDirectory_iff plain.front]
  cases walked : files.follow [] way with
  | error fault => simp
  | ok reached =>
    rw [follow_plain_ok plain.front walked]
    cases files.node? way with
    | none => simp
    | some node =>
      cases node with
      | file content => simp
      | directory => cases Path.isNameTooLong name <;> simp

theorem isDirectory_iff_way {way : List String} (plain : PlainWay way) :
    files.isDirectory way = true ↔
      (∀ front, front <+: way → files.node? front = some .directory) ∧
        ∀ name ∈ way, Path.isNameTooLong name = false := by
  induction way using List.reverseRecOn with
  | nil => simp [isDirectory, follow, node?_here]
  | append_singleton around name ih =>
    rw [isDirectory_iff plain, follow_concat_ok_iff plain, ih plain.front]
    constructor
    · rintro ⟨⟨⟨above, short⟩, last⟩, directory⟩
      refine ⟨?_, by simpa [or_imp, forall_and] using ⟨short, last⟩⟩
      intro front part
      rcases List.prefix_concat_iff.mp part with rfl | inner
      · exact directory
      · exact above front inner
    · rintro ⟨all, short⟩
      have part : around <+: around ++ [name] := List.prefix_append around [name]
      exact ⟨⟨⟨fun front inner => all front (inner.trans part),
        fun step member => short step (List.mem_append_left _ member)⟩, short name (by simp)⟩,
        all _ (List.prefix_refl _)⟩

/-- What stops a walk: a place where nothing is, a file that is no place to walk through, or a name that no
directory can hold. -/
theorem follow_fault {way : List String} (plain : PlainWay way) {fault : SystemError}
    (stopped : files.follow [] way = .error fault) :
    (fault = .notFound ∧ ∃ front, front <+: way ∧ files.node? front = none) ∨
    (fault = .notDirectory ∧ ∃ front content, front <+: way ∧ files.node? front = some (.file content)) ∨
    (fault = .nameTooLong ∧ ∃ name ∈ way, Path.isNameTooLong name = true) := by
  induction way using List.reverseRecOn with
  | nil => contradiction
  | append_singleton around name ih =>
    have part : around <+: around ++ [name] := List.prefix_append around [name]
    rw [follow_concat plain] at stopped
    cases walked : files.follow [] around with
    | error fault' =>
      rw [walked, Except.error.injEq] at stopped
      subst stopped
      rcases ih plain.front walked with ⟨kind, front, above, nothing⟩ | ⟨kind, front, content, above, file⟩ |
        ⟨kind, long, member, tooLong⟩
      · exact Or.inl ⟨kind, front, above.trans part, nothing⟩
      · exact Or.inr (Or.inl ⟨kind, front, content, above.trans part, file⟩)
      · exact Or.inr (Or.inr ⟨kind, long, List.mem_append_left _ member, tooLong⟩)
    | ok reached =>
      simp only [walked] at stopped
      split at stopped
      · rename_i nothing
        exact Or.inl ⟨(Except.error.inj stopped).symm, around, part, nothing⟩
      · rename_i content file
        exact Or.inr (Or.inl ⟨(Except.error.inj stopped).symm, around, content, part, file⟩)
      · split at stopped
        · rename_i tooLong
          exact Or.inr (Or.inr ⟨(Except.error.inj stopped).symm, name, by simp, tooLong⟩)
        · contradiction

end FileSystem
end BookSearch
