import BookSearch.Keyed

/-!
Paths as they are written, and a file system as a value: which places hold a directory or a file, and how
reading, writing and making directories answer. Places are lists of names from the working directory. That
directory, the ones above it, which are reached by steps up, and the root always exist.

Every node is a directory or a file with its bytes: links, special files and rights are left out. The
working directory has no name of its own, so the absolute path of a place under it, or a path that goes up
and by name down again, is here the path of another place.
-/
namespace BookSearch

structure Path where
  text : String
  deriving DecidableEq, Repr

namespace Path

/-- The pieces between slashes, empty ones included; `piece` holds the one that has begun, reversed. -/
def piecesAfter : (piece : List Char) → List Char → List (List Char)
  | piece, [] => [piece.reverse]
  | piece, c :: rest => if c = '/' then piece.reverse :: piecesAfter [] rest else piecesAfter (c :: piece) rest

/-- The name that stands for the root of absolute paths; no other name has a slash in it. -/
def root : String := "/"

def here : String := "."

def up : String := ".."

/-- Empty pieces take no step. -/
def steps (path : Path) : List String :=
  let chars := path.text.toList
  let names := ((piecesAfter [] chars).filter fun piece => !piece.isEmpty).map String.ofList
  if chars.head? = some '/' then root :: names else names

/-- A slash at the end asks for a directory, just as a step that stays there does. -/
def stepsToFile (path : Path) : List String :=
  if path.text.toList.getLast? = some '/' then path.steps ++ [here] else path.steps

/-- The bytes that a path and a name in it may have at most. -/
def longest : Nat := 4095

def longestName : Nat := 255

def hasNul (path : Path) : Bool := path.text.toList.contains '\x00'

def isTooLong (path : Path) : Bool := longest < path.text.utf8ByteSize

def isNameTooLong (name : String) : Bool := longestName < name.utf8ByteSize

/-- An absolute name stands for itself. -/
def join (path : Path) (name : String) : Path :=
  if path.text.isEmpty || name.toList.head? = some '/' then ⟨name⟩
  else if path.text.toList.getLast? = some '/' then ⟨path.text ++ name⟩
  else ⟨path.text ++ "/" ++ name⟩

/-- The steps to a directory and then to the ones around it, innermost first. -/
def enclosing (path : Path) : List (List String) :=
  let plain := path.steps.filter (· ≠ here)
  path.steps :: (List.range plain.length).reverse.filterMap fun n =>
    if n = 0 then none else some (plain.take n)

end Path

inductive SystemError where
  | notFound
  | alreadyExists
  | notDirectory
  | isDirectory
  | nameTooLong
  | nulInName
  | notText
  deriving DecidableEq, Repr

def SystemError.message : SystemError → String
  | notFound => "No such file or directory (os error 2)"
  | alreadyExists => "File exists (os error 17)"
  | notDirectory => "Not a directory (os error 20)"
  | isDirectory => "Is a directory (os error 21)"
  | nameTooLong => "File name too long (os error 36)"
  | nulInName => "file name contained an unexpected NUL byte"
  | notText => "stream did not contain valid UTF-8"

inductive Node where
  | directory
  | file (content : ByteArray)

instance : DecidableEq Node
  | .directory, .directory => isTrue rfl
  | .file one, .file other =>
    match ByteArray.decEq one other with
    | isTrue same => isTrue (congrArg Node.file same)
    | isFalse differ => isFalse fun equal => differ (Node.file.inj equal)
  | .directory, .file _ => isFalse nofun
  | .file _, .directory => isFalse nofun

abbrev Place := List String

structure FileSystem where
  nodes : List (Place × Node)
  deriving DecidableEq

namespace FileSystem

def empty : FileSystem := ⟨[]⟩

def isGiven (place : Place) : Bool := place.all (· = Path.up) || place = [Path.root]

def node? (files : FileSystem) (place : Place) : Option Node :=
  if isGiven place then some .directory
  else (Keyed.get? Prod.fst place files.nodes).map Prod.snd

def put (files : FileSystem) (place : Place) (node : Node) : FileSystem :=
  ⟨Keyed.put Prod.fst (place, node) files.nodes⟩

theorem node?_put_same (files : FileSystem) (place : Place) (node : Node)
    (free : isGiven place = false) : (files.put place node).node? place = some node := by
  have stored := Keyed.get?_put_same Prod.fst (place, node) files.nodes
  simp [node?, put, free, stored]

theorem node?_put_other (files : FileSystem) (place wanted : Place) (node : Node)
    (other : wanted ≠ place) : (files.put place node).node? wanted = files.node? wanted := by
  have kept := Keyed.get?_put_other Prod.fst (place, node) files.nodes wanted other
  simp [node?, put, kept]

/-- The directory around a place; the root is around itself. -/
def outer (place : Place) : Place :=
  if place = [Path.root] then place
  else if isGiven place then place ++ [Path.up]
  else place.dropLast

/-- Where the steps lead from a place. Each step needs a directory to start from, but nothing has to be
at the end. -/
def follow (files : FileSystem) : Place → List String → Except SystemError Place
  | place, [] => .ok place
  | place, step :: rest =>
    match files.node? place with
    | none => .error .notFound
    | some (.file _) => .error .notDirectory
    | some .directory =>
      if step = Path.here then follow files place rest
      else if step = Path.up then follow files (outer place) rest
      else if Path.isNameTooLong step then .error .nameTooLong
      else follow files (place ++ [step]) rest

def pathFault? (path : Path) : Option SystemError :=
  if path.hasNul then some .nulInName
  else if path.isTooLong then some .nameTooLong
  else none

def locate (files : FileSystem) (path : Path) : Except SystemError Place :=
  match pathFault? path with
  | some fault => .error fault
  | none => files.follow [] path.stepsToFile

def contains (files : FileSystem) (path : Path) : Bool :=
  match files.locate path with
  | .error _ => false
  | .ok place => (files.node? place).isSome

def readText (files : FileSystem) (path : Path) : Except SystemError String :=
  match files.locate path with
  | .error fault => .error fault
  | .ok place =>
    match files.node? place with
    | none => .error .notFound
    | some .directory => .error .isDirectory
    | some (.file content) =>
      match String.fromUTF8? content with
      | some text => .ok text
      | none => .error .notText

def writeText (files : FileSystem) (path : Path) (text : String) : Except SystemError FileSystem :=
  match files.locate path with
  | .error fault => .error fault
  | .ok place =>
    match files.node? place with
    | some .directory => .error .isDirectory
    | _ => .ok (files.put place (.file text.toUTF8))

def makeDirectory (files : FileSystem) (steps : List String) : Except SystemError FileSystem :=
  match files.follow [] steps with
  | .error fault => .error fault
  | .ok place =>
    match files.node? place with
    | some _ => .error .alreadyExists
    | none => .ok (files.put place .directory)

def isDirectory (files : FileSystem) (steps : List String) : Bool :=
  match files.follow [] steps with
  | .error _ => false
  | .ok place => files.node? place = some .directory

/-- Makes the first directory of the list, and the later ones before it where they are missing. -/
def makeFirst (files : FileSystem) : List (List String) → Except SystemError Unit × FileSystem
  | [] => (.ok (), files)
  | steps :: around =>
    match files.makeDirectory steps with
    | .ok made => (.ok (), made)
    | .error .notFound =>
      match makeFirst files around with
      | (.error fault, files) => (.error fault, files)
      | (.ok (), files) =>
        match files.makeDirectory steps with
        | .ok made => (.ok (), made)
        | .error fault => (if files.isDirectory steps then .ok () else .error fault, files)
    | .error fault => (if files.isDirectory steps then .ok () else .error fault, files)

def makeDirectories (files : FileSystem) (path : Path) : Except SystemError Unit × FileSystem :=
  match pathFault? path with
  | some fault => (.error fault, files)
  | none => files.makeFirst path.enclosing

end FileSystem
end BookSearch
