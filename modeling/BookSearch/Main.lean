import BookSearch.CommandLine.Run

/-!
The program on a real file system: the places that a command line names are read first, and what the run
added is written back after it.
-/
namespace BookSearch

namespace Disk

def pathText (place : Place) : String :=
  match place with
  | [] => Path.here
  | name :: rest =>
    if name = Path.root then Path.root ++ "/".intercalate rest else "/".intercalate (name :: rest)

def visited : Place → List String → List Place
  | _, [] => []
  | place, step :: rest =>
    let next :=
      if step = Path.here then place
      else if step = Path.up then FileSystem.outer place
      else place ++ [step]
    next :: visited next rest

def look (place : Place) : IO (Option Node) := do
  let text := pathText place
  try
    let real ← IO.FS.realPath text
    if ← real.isDir then return some .directory
    return some (.file (← IO.FS.readBinFile text))
  catch _ => return none

def readAll (paths : List Path) : IO FileSystem := do
  let mut files := FileSystem.empty
  for place in paths.flatMap fun path => visited [] path.steps do
    if (files.node? place).isNone then
      if let some node ← look place then
        files := files.put place node
  return files

/-- Files are only ever added, and a directory stands before what is in it. -/
def writeAdded (before after : FileSystem) : IO Unit := do
  for (place, node) in after.nodes do
    if before.node? place ≠ some node then
      match node with
      | .directory => IO.FS.createDirAll (pathText place)
      | .file content => IO.FS.writeBinFile (pathText place) content

end Disk

def Invocation.paths (invocation : Invocation) : List Path :=
  invocation.catalogue.toList ++
    (match invocation.configDirectory with
      | none => []
      | some directory => [Config.file directory]) ++
    (match invocation.command with
      | .replay file => [file]
      | _ => [])

def CommandLine.perform (arguments : List String) : IO UInt32 := do
  let before ←
    match parse arguments with
    | .error _ => pure FileSystem.empty
    | .ok invocation => Disk.readAll invocation.paths
  let (reply, after) := respond before arguments
  Disk.writeAdded before after
  IO.print reply.stdout
  IO.eprint reply.stderr
  return UInt32.ofNat reply.exitCode

end BookSearch

def main (arguments : List String) : IO UInt32 := BookSearch.CommandLine.perform arguments
