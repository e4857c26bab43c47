import BookSearch.Proofs.Files.Walks

/-!
Texts in files. What was written to a path is what is read from it next, and nothing else is changed by
writing it.
-/
namespace BookSearch

theorem fromUTF8?_toUTF8 (text : String) : String.fromUTF8? text.toUTF8 = some text := by
  simp [String.fromUTF8?, text.isValidUTF8]
  rfl

namespace FileSystem

variable {files after : FileSystem} {place reached written : Place} {path : Path} {text : String}

def Holds (files : FileSystem) (path : Path) (text : String) : Prop :=
  ∃ place, files.locate path = .ok place ∧ files.node? place = some (.file text.toUTF8)

theorem readText_of_holds (holds : files.Holds path text) : files.readText path = .ok text := by
  obtain ⟨place, located, node⟩ := holds
  rw [readText, located]
  simp only [node, fromUTF8?_toUTF8]

/-- A walk does not depend on what is at a place that is no directory. -/
theorem follow_put (noDirectory : files.node? written ≠ some .directory) (node : Node) {steps : List String}
    (walked : files.follow place steps = .ok reached) :
    (files.put written node).follow place steps = .ok reached := by
  induction steps generalizing place with
  | nil => exact walked
  | cons step rest ih =>
    cases here : files.node? place with
    | none => simp [follow, here] at walked
    | some held =>
      cases held with
      | file content => simp [follow, here] at walked
      | directory =>
        have apart : place ≠ written := by
          rintro rfl
          exact noDirectory here
        rw [follow, node?_put_other _ _ _ _ apart, here]
        simp only [follow, here] at walked ⊢
        by_cases stays : step = Path.here
        · rw [if_pos stays] at walked ⊢
          exact ih walked
        · rw [if_neg stays] at walked ⊢
          by_cases rises : step = Path.up
          · rw [if_pos rises] at walked ⊢
            exact ih walked
          · rw [if_neg rises] at walked ⊢
            split at walked
            · contradiction
            · rename_i short
              rw [if_neg short]
              exact ih walked

theorem locate_put (noDirectory : files.node? written ≠ some .directory) (node : Node)
    (located : files.locate path = .ok reached) : (files.put written node).locate path = .ok reached := by
  rw [locate] at located ⊢
  cases fault : pathFault? path with
  | some fault' => simp [fault] at located
  | none =>
    simp only [fault] at located ⊢
    exact follow_put noDirectory node located

theorem holds_put (located : files.locate path = .ok place) (noDirectory : files.node? place ≠ some .directory)
    (text : String) : (files.put place (.file text.toUTF8)).Holds path text :=
  ⟨place, locate_put noDirectory _ located, node?_put_same _ _ _ (isGiven_of_no_directory noDirectory)⟩

theorem writeText_of_located (located : files.locate path = .ok place)
    (noDirectory : files.node? place ≠ some .directory) (text : String) :
    files.writeText path text = .ok (files.put place (.file text.toUTF8)) := by
  rw [writeText, located]
  dsimp only
  split
  · contradiction
  · rfl

end FileSystem
end BookSearch
