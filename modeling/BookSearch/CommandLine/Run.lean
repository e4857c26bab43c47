import BookSearch.CommandLine.Arguments
import BookSearch.Files.Documents
import BookSearch.Service

/-!
What the commands print, and what they leave in the file system. The configuration is loaded before the
catalogue, and both before the command is looked at.
-/
namespace BookSearch
namespace CommandLine

/-- Lines end with a line feed, and a carriage return in front of it belongs to the ending. -/
def linesAfter : (line : List Char) → List Char → List (List Char)
  | line, [] => if line.isEmpty then [] else [line.reverse]
  | line, c :: rest =>
    if c = '\n' then
      (if line.head? = some '\r' then line.tail else line).reverse :: linesAfter [] rest
    else linesAfter (c :: line) rest

def lines (s : String) : List String := (linesAfter [] s.toList).map String.ofList

inductive ReplayError where
  | unreadable (file : Path) (cause : SystemError)

def ReplayError.toFailure : ReplayError → Failure
  | unreadable file cause =>
    ⟨.internal, "failed to read replay file " ++ file.text ++ ": " ++ cause.message⟩

/-- Searches that fail are skipped. -/
def replayLine (service : Service) (line : String) : Service :=
  (service.search { mode := .operators, text := some line }).2

def replay (service : Service) (text : String) : List Keyword :=
  let asked := (lines text).filter fun line => !Text.isBlank line
  (asked.foldl replayLine service).topKeywords

def searchText (service : Service) (request : SearchRequest) : Except Failure String :=
  (service.search request).1.map fun outcome => SearchResponse.codec.writeIndented outcome.response

def execute (files : FileSystem) (service : Service) : Command → Except Failure String
  | .search query page size => searchText service { mode := .operators, text := some query, page, size }
  | .browse keyword page size => searchText service { mode := .literal, text := some keyword, page, size }
  | .book id => (service.detail id).map BookDetail.codec.writeIndented
  | .replay file =>
    match files.readText file with
    | .error cause => .error (ReplayError.unreadable file cause).toFailure
    | .ok text => .ok (Keyword.codec.list.writeIndented (replay service text))

def loadConfig (files : FileSystem) : Option Path → Except Failure Config × FileSystem
  | none => (.ok Config.standard, files)
  | some directory =>
    let (loaded, files) := Config.load files directory
    (loaded.mapError ConfigError.toFailure, files)

def loadCatalogue (files : FileSystem) : Option Path → Except Failure Catalogue
  | none => .ok Catalogue.empty
  | some file => (Catalogue.load files file).mapError CatalogueError.toFailure

def newService (config : Config) (catalogue : Catalogue) : Service :=
  ⟨{ catalogue }, ⟨.memory, Counter.empty⟩, config⟩

def run (files : FileSystem) (invocation : Invocation) : Except Failure String × FileSystem :=
  match loadConfig files invocation.configDirectory with
  | (.error failure, files) => (.error failure, files)
  | (.ok config, files) =>
    match loadCatalogue files invocation.catalogue with
    | .error failure => (.error failure, files)
    | .ok catalogue => (execute files (newService config catalogue) invocation.command, files)

inductive Reply where
  | printed (text : String)
  | failed (failure : Failure)
  | halted (halt : Halt)
  deriving DecidableEq, Repr

namespace Reply

def exitCode : Reply → Nat
  | printed _ => 0
  | failed _ => 1
  | halted .usage => 2
  | halted .help => 0
  | halted .version => 0

def versionText : String := "bookshelf 0.1.0\n"

def usageText : String :=
  "Usage: bookshelf [--catalog FILE] [--config-dir DIR] [-v] COMMAND\n\n" ++
  "  search QUERY [--page N] [--size N]    terms joined by '|' (or) and '-' (not)\n" ++
  "  browse KEYWORD [--page N] [--size N]  one term, taken literally\n" ++
  "  book ID                               one book by its ISBN\n" ++
  "  replay FILE                           search for every line, then list the top keywords\n"

def stdout : Reply → String
  | printed text => text ++ "\n"
  | failed _ => ""
  | halted .usage => ""
  | halted .help => usageText
  | halted .version => versionText

def stderr : Reply → String
  | printed _ => ""
  | failed failure => failure.body.toIndentedText ++ "\n"
  | halted .usage => usageText
  | halted .help => ""
  | halted .version => ""

end Reply

def respond (files : FileSystem) (arguments : List String) : Reply × FileSystem :=
  match parse arguments with
  | .error halt => (.halted halt, files)
  | .ok invocation =>
    match run files invocation with
    | (.ok text, files) => (.printed text, files)
    | (.error failure, files) => (.failed failure, files)

end CommandLine
end BookSearch
