import Stencil.Command.Lookup

/-!
The program.  It fetches the world that a run looks at, runs the command line, and then writes what
the run says.
-/
namespace Stencil.Program

def nameOf (l : Location) : String :=
  String.ofList (Path.ofLocation l).render

/-- The content of a file, empty when it cannot be read. -/
def contentOf (name : String) : IO (List UInt8) := do
  match ← (IO.FS.readBinFile name).toBaseIO with
  | .ok bytes => return bytes.toList
  | .error _ => return []

def entryAt? (l : Location) : IO (Option Entry) := do
  let path := (← IO.currentDir) / nameOf l
  if ← path.isDir then return some .folder
  if ← path.pathExists then return some (.file (← contentOf (nameOf l)))
  return none

def isDenied {α : Type} (attempt : IO α) : IO Bool := do
  match ← attempt.toBaseIO with
  | .error (.permissionDenied ..) => return true
  | _ => return false

/-- The rights that are missing at an entry, found out by using them.  Whether a folder takes new
entries is not tried. -/
def missingRights (l : Location) (entry : Entry) : IO (List (Location × Right)) := do
  let path := (← IO.currentDir) / nameOf l
  match entry with
  | .folder => return if ← isDenied (path / ".").metadata then [(l, .search)] else []
  | .file _ =>
    let unread := if ← isDenied (IO.FS.readBinFile path) then [(l, Right.read)] else []
    let unwritten := if ← isDenied (IO.FS.Handle.mk path .append) then [(l, Right.write)] else []
    return unread ++ unwritten

/-- The part of the file system that paths lead through. -/
def fetch (folder : Location) (paths : List Path) : IO FileTree := do
  let mut tree : FileTree := { entries := [] }
  for l in paths.flatMap fun p => p.way folder do
    if (tree.get? l).isNone then
      if let some entry ← entryAt? l then
        let missing ← missingRights l entry
        tree := { tree.put l entry with barred := tree.barred ++ missing }
  return tree

def store (l : Location) (entry : Entry) : IO Unit :=
  match entry with
  | .folder => IO.FS.createDirAll (nameOf l)
  | .file content => IO.FS.writeBinFile (nameOf l) ⟨content.toArray⟩

/-- Shows log records, and adds them to the log file. -/
def showLog (c : Config) (least : Nat) (folder : Location) (records : List Logging.Record) :
    IO Unit := do
  let lines := String.ofList (Logging.lines least records)
  (← IO.getStderr).putStr lines
  if let some p := Logging.file? c then
    let log ← IO.FS.Handle.mk (nameOf (p.resolve folder)) .append
    log.putStr lines

/-- Announces a server, which is a program of its own. -/
def announce (s : Command.Serving) : IO Unit := do
  let address := s.host.text ++ ':' :: ((s.portNumber.map Text.ofInt).getD [])
  (← IO.getStderr).putStrLn (String.ofList ("Server wanted on ".toList ++ address))

def perform (c : Config) (environment : Table Text) (words : List Text)
    (i : Command.Invocation) : IO UInt32 := do
  let folder := (Path.ofText (← IO.currentDir).toString.toList).parts
  let tree ← fetch folder (i.paths c folder)
  let input ← if i.readsInput then (← IO.getStdin).readBinToEnd else pure ⟨#[]⟩
  let outcome := Command.run c (.fresh tree folder input.toList environment) words
  for (l, entry) in outcome.tree.changesFrom tree do
    store l entry
  if let .ok least := Logging.levelNumber c i.debug then
    showLog c least folder outcome.log
  (← IO.getStdout).putStr (String.ofList outcome.stdout)
  outcome.served.forM announce
  match outcome.exit with
  | .returned status | .left status => return status.toUInt32
  | .halted halt =>
    (← IO.getStderr).putStrLn (String.ofList halt.message)
    return 1

end Stencil.Program

open Stencil

def main (args : List String) : IO UInt32 := do
  let environment := Command.readEnvironment (← Program.contentOf "/proc/self/environ")
  match Config.ofEnvironment environment with
  | .error e =>
    (← IO.getStderr).putStrLn (String.ofList e.message)
    return 1
  | .ok c =>
    let words := args.map String.toList
    match Command.readInvocation c words with
    | .misuse =>
      (← IO.getStderr).putStr (String.ofList Command.helpText)
      return 2
    | .help =>
      (← IO.getStdout).putStr (String.ofList Command.helpText)
      return 0
    | .invocation i => Program.perform c environment words i
