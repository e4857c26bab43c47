import BookSearch.Catalogue
import BookSearch.Files.System
import BookSearch.Payload

/-!
The files that a run reads. A catalogue file is a JSON array of books, put into the catalogue in the order
of the file. The configuration file of a directory is indented JSON; it is made with the defaults where
there is none, and refused where it is from another version or allows page sizes out of bounds.
-/
namespace BookSearch

inductive CatalogueError where
  | unreadable (file : Path) (cause : SystemError)
  | unparsable (file : Path) (cause : Json.DecodeError)

namespace CatalogueError

def message : CatalogueError → String
  | unreadable file cause => "failed to read catalog " ++ file.text ++ ": " ++ cause.message
  | unparsable file cause => "failed to parse catalog " ++ file.text ++ ": " ++ cause.message

def toFailure (fault : CatalogueError) : Failure := ⟨.store, fault.message⟩

end CatalogueError

namespace Catalogue

def load (files : FileSystem) (file : Path) : Except CatalogueError Catalogue :=
  match files.readText file with
  | .error cause => .error (.unreadable file cause)
  | .ok text =>
    match Book.catalogueCodec.read text with
    | .error cause => .error (.unparsable file cause)
    | .ok books => .ok (ofBooks books)

end Catalogue

inductive ConfigError where
  | noDirectory (directory : Path) (cause : SystemError)
  | unreadable (file : Path) (cause : SystemError)
  | unparsable (file : Path) (cause : Json.DecodeError)
  | version (given : String)
  | invalid (file : Path) (cause : PreferenceError)
  | unwritable (file : Path) (cause : SystemError)

namespace ConfigError

def message : ConfigError → String
  | noDirectory directory cause =>
    "failed to create config directory " ++ directory.text ++ ": " ++ cause.message
  | unreadable file cause => "failed to read bookshelf config " ++ file.text ++ ": " ++ cause.message
  | unparsable file cause => "failed to parse bookshelf config " ++ file.text ++ ": " ++ cause.message
  | version given =>
    "unsupported bookshelf config version " ++ given ++ " (expected " ++ Config.currentVersion ++ ")"
  | invalid file cause => "invalid bookshelf config " ++ file.text ++ ": " ++ cause.message
  | unwritable file cause => "failed to write bookshelf config " ++ file.text ++ ": " ++ cause.message

def toFailure (fault : ConfigError) : Failure := ⟨.internal, fault.message⟩

end ConfigError

namespace Config

def file (directory : Path) : Path := directory.join "bookshelf.json"

def save (files : FileSystem) (file : Path) (config : Config) : Except ConfigError FileSystem :=
  match files.writeText file (codec.writeIndented config) with
  | .error cause => .error (.unwritable file cause)
  | .ok files => .ok files

/-- The version is checked before the page sizes. -/
def check (file : Path) (config : Config) : Except ConfigError Config :=
  if config.version ≠ currentVersion then .error (.version config.version)
  else
    match config.search.validate with
    | .error cause => .error (.invalid file cause)
    | .ok () => .ok config

def read (files : FileSystem) (file : Path) : Except ConfigError Config :=
  match files.readText file with
  | .error cause => .error (.unreadable file cause)
  | .ok text =>
    match codec.read text with
    | .error cause => .error (.unparsable file cause)
    | .ok config => check file config

def load (files : FileSystem) (directory : Path) : Except ConfigError Config × FileSystem :=
  match files.makeDirectories directory with
  | (.error cause, files) => (.error (.noDirectory directory cause), files)
  | (.ok (), files) =>
    if files.contains (file directory) then (read files (file directory), files)
    else
      match save files (file directory) standard with
      | .error fault => (.error fault, files)
      | .ok files => (.ok standard, files)

end Config

end BookSearch
