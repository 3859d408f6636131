import Stencil.Command.Run

/-!
What a run looks at: the paths that a command line makes a run read or write, whether it reads the
standard input, and which log records it shows.  A program that knows them fetches the world of a
run first.
-/
namespace Stencil.Command

open Text

def inputPaths (name : Text) : List Path :=
  if name = ['-'] then [] else [Path.ofText name]

/-- The path that an option names, or else the paths among which the nearest file is looked for. -/
def candidates (start : Location) (given : Option Argument) (name : Text) : List Path :=
  match given with
  | some (.word (c :: cs)) => [Path.ofText (c :: cs)]
  | _ => (Location.ascending ascentLimit start).map fun l =>
    (Path.ofLocation l).join (Path.ofText name)

def outputPaths (output : Option Argument) : List Path :=
  match output with
  | some (.word (c :: cs)) => [Path.ofText (c :: cs)]
  | _ => []

def Action.paths (c : Config) (folder : Location) : Action → List Path
  | .expand o =>
    let start := searchStart folder o.template
    inputPaths o.template ++ candidates start o.settings c.settingsFileName ++
      candidates start o.releaseNotes c.releaseNotesFileName ++ outputPaths o.output
  | .names o => inputPaths o.template
  | .reindent o => inputPaths o.file
  | .serve _ => []

def Action.readsInput : Action → Bool
  | .expand o => o.template == ['-']
  | .names o => o.template == ['-']
  | .reindent o => o.file == ['-']
  | .serve _ => false

def Invocation.paths (i : Invocation) (c : Config) (folder : Location) : List Path :=
  (Logging.file? c).toList ++ (i.action.map (Action.paths c folder)).getD []

def Invocation.readsInput (i : Invocation) : Bool :=
  i.action.any Action.readsInput

/-- The environment in a block of entries that null characters end; a block that holds no text is an
empty environment. -/
def readEnvironment (block : List UInt8) : Table Text :=
  match Utf8.decode block with
  | .ok t => Table.ofPairs ((split '\x00' t).filterMap (cut? '='))
  | .error _ => []

end Stencil.Command
