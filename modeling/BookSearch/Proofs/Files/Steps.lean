import Mathlib.Data.List.Basic
import BookSearch.Files.System

/-!
The steps that a written path takes. Joining a name to a path adds just that step at the end, however many
slashes the path ends with.
-/
namespace BookSearch.Path

structure IsName (name : String) : Prop where
  written : name.toList ≠ []
  whole : '/' ∉ name.toList

def names (s : List Char) : List String :=
  ((piecesAfter [] s).filter fun piece => !piece.isEmpty).map String.ofList

theorem piecesAfter_slash (piece s t : List Char) :
    piecesAfter piece (s ++ '/' :: t) = piecesAfter piece s ++ piecesAfter [] t := by
  induction s generalizing piece with
  | nil => simp [piecesAfter]
  | cons c s ih =>
    rw [List.cons_append, piecesAfter, piecesAfter]
    split
    · rw [ih, List.cons_append]
    · rw [ih]

theorem piecesAfter_whole (piece : List Char) {s : List Char} (whole : '/' ∉ s) :
    piecesAfter piece s = [piece.reverse ++ s] := by
  induction s generalizing piece with
  | nil => simp [piecesAfter]
  | cons c s ih =>
    rw [List.mem_cons, not_or] at whole
    rw [piecesAfter, if_neg (Ne.symm whole.1), ih _ whole.2, List.reverse_cons, List.append_assoc,
      List.singleton_append]

theorem names_slash (s t : List Char) : names (s ++ '/' :: t) = names s ++ names t := by
  rw [names, piecesAfter_slash, List.filter_append, List.map_append, names, names]

theorem names_slash_end (s : List Char) : names (s ++ ['/']) = names s := by
  rw [names_slash]
  exact List.append_nil _

theorem names_of_name {name : String} (isName : IsName name) : names name.toList = [name] := by
  rw [names, piecesAfter_whole [] isName.whole, List.reverse_nil, List.nil_append]
  simp [isName.written]

theorem steps_eq_names (path : Path) :
    path.steps = (if path.text.toList.head? = some '/' then [root] else []) ++ names path.text.toList := by
  rw [steps]
  split
  · rfl
  · rfl

theorem stepsToFile_of_name_last {path : Path} {name : String} (isName : IsName name) (front : List Char)
    (text : path.text.toList = front ++ name.toList) : path.stepsToFile = path.steps := by
  have last : path.text.toList.getLast? ≠ some '/' := by
    rw [text, List.getLast?_append_of_ne_nil _ isName.written]
    intro slash
    exact isName.whole (List.mem_of_getLast? slash)
  rw [stepsToFile, if_neg last]

theorem join_cases {name : String} (isName : IsName name) (path : Path) :
    (path.text.toList = [] ∧ (path.join name).text.toList = name.toList) ∨
    (∃ front, path.text.toList = front ++ ['/'] ∧
      (path.join name).text.toList = front ++ '/' :: name.toList) ∨
    (path.text.toList ≠ [] ∧ (path.join name).text.toList = path.text.toList ++ '/' :: name.toList) := by
  have relative : name.toList.head? ≠ some '/' := fun slash => isName.whole (List.mem_of_head? slash)
  by_cases empty : path.text = ""
  · left
    simp [join, empty]
  · right
    have written : path.text.isEmpty = false := by simpa using empty
    by_cases slash : path.text.toList.getLast? = some '/'
    · left
      obtain ⟨front, text⟩ := List.getLast?_eq_some_iff.mp slash
      refine ⟨front, text, ?_⟩
      simp [join, written, relative, text]
    · right
      refine ⟨by simpa using empty, ?_⟩
      simp [join, written, relative, slash]

theorem stepsToFile_join {name : String} (isName : IsName name) (path : Path) :
    (path.join name).stepsToFile = path.steps ++ [name] := by
  have relative : name.toList.head? ≠ some '/' := fun slash => isName.whole (List.mem_of_head? slash)
  rcases join_cases isName path with ⟨empty, text⟩ | ⟨front, ended, text⟩ | ⟨written, text⟩
  · rw [stepsToFile_of_name_last isName [] text, steps_eq_names, text, if_neg relative, names_of_name isName,
      steps_eq_names, empty]
    rfl
  · have same : (front ++ '/' :: name.toList).head? = (front ++ ['/']).head? := by cases front <;> rfl
    rw [stepsToFile_of_name_last isName (front ++ ['/']) (by simp [text]), steps_eq_names, text, same,
      names_slash, names_of_name isName, steps_eq_names, ended, names_slash_end, List.append_assoc]
  · have same : (path.text.toList ++ '/' :: name.toList).head? = path.text.toList.head? :=
      List.head?_append_of_ne_nil _ written
    rw [stepsToFile_of_name_last isName (path.text.toList ++ ['/']) (by simp [text]), steps_eq_names, text,
      same, names_slash, names_of_name isName, steps_eq_names, List.append_assoc]

theorem mem_join {name : String} (isName : IsName name) {path : Path} {c : Char} (apart : c ≠ '/')
    (absent : c ∉ name.toList) : c ∈ (path.join name).text.toList ↔ c ∈ path.text.toList := by
  rcases join_cases isName path with ⟨empty, text⟩ | ⟨front, ended, text⟩ | ⟨_, text⟩
  · simp [text, empty, absent]
  · simp [text, ended, absent, apart]
  · simp [text, absent, apart]

end BookSearch.Path
