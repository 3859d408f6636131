import Stencil.Block.Error
import Stencil.Command.Invocation
import Stencil.Files.Load
import Stencil.Logging

/-!
The sources of the `expand` command.  Definitions on the command line come first, then the section
of a settings file, then release notes, then the environment.
-/
namespace Stencil.Command

open Text

/-- What a command meets: what it may read, and what becomes of what it shows.  All texts are made of
whole characters, those of the environment and of the command line too. -/
structure World where
  tree : FileTree
  folder : Location
  input : List UInt8
  environment : Table Text
  reserved : Release.Reserved
  /-- Log records are shown somewhere already, and then the level of the log stays as it is. -/
  hasLog : Bool
  /-- Why the standard output does not take a text, if it does not. -/
  refusal? : Text → Option Text

/-- The world of a program that has no log yet and whose standard output takes every text.  Its only
objects are release notes, so no name has to be reserved. -/
def World.fresh (tree : FileTree) (folder : Location) (input : List UInt8)
    (environment : Table Text) : World where
  tree
  folder
  input
  environment
  reserved := ⟨[], fun _ _ => List.not_mem_nil⟩
  hasLog := false
  refusal? _ := none

inductive Failure
  | load (e : LoadError)
  /-- A definition is not a key, an equals sign and a value. -/
  | definition (t : Text)
  | block (e : Block.Error)
  /-- The output cannot be written. -/
  | output (o : Obstacle) (p : Path)
  /-- The standard output does not take a text, for this reason. -/
  | unprintable (reason : Text)
  /-- A definition was left with nothing. -/
  | noDefinition
  /-- The name of a section was left with nothing. -/
  | noSection
  deriving DecidableEq, Repr

namespace Failure

def message : Failure → Text
  | load e => e.message
  | definition t => "Invalid definition (expected KEY=VALUE): ".toList ++ t
  | block e => e.message
  | output o p => o.message p
  | unprintable reason => reason
  | noDefinition => "'list' object has no attribute 'partition'".toList
  | noSection => "unhashable type: 'list'".toList

/-- A command reports its failures, but nothing in the place of a text breaks it off. -/
def isReported : Failure → Bool
  | noDefinition | noSection => false
  | _ => true

end Failure

/-- Reads a definition: a key that is not empty, an equals sign and a value. -/
def readDefine : Argument → Except Failure (Text × Text)
  | .nothing => .error .noDefinition
  | .word t =>
    match cut? '=' t with
    | some (c :: key, value) => .ok (c :: key, value)
    | _ => .error (.definition t)

/-- Reads definitions; a repeated key keeps its last value. -/
def readDefines (defines : List Argument) : Except Failure (Table Text) :=
  (defines.mapM readDefine).map Table.ofPairs

/-- A file that a command line names or that was found. -/
structure Located where
  path : Path
  shown : Text
  deriving DecidableEq, Repr

/-- The file that an option names, or else the nearest one of the configured name. -/
def locate (w : World) (start : Location) (given : Option Argument) (name : Text) :
    Except Failure (Option Located) :=
  match given with
  | some (.word (c :: cs)) => .ok (some ⟨Path.ofText (c :: cs), c :: cs⟩)
  | _ =>
    match w.tree.seekFile start (Path.ofText name) with
    | .error (o, p) => .error (.load (.obstacle o p))
    | .ok found => .ok (found.map fun p => ⟨p, p.render⟩)

/-- What the values of a template come from. -/
structure Sources where
  defines : Table Text
  settings : Option Settings.Section
  notes : Option Release.Notes
  reserved : Release.Reserved
  ignoreCase : Bool
  /-- Missing when environment variables are not used. -/
  environment : Option (Table Text)
  deriving DecidableEq, Repr

def Sources.resolver {σ : Type} (s : Sources) : Resolver σ :=
  .firstOf <|
    [.ofTexts s.defines] ++
    (s.settings.map fun chosen => .ofOptions chosen.entries).toList ++
    (s.notes.map fun notes => notes.toRecord.resolver s.reserved.names s.ignoreCase).toList ++
    (s.environment.map fun table => .ofTexts table).toList

/-- The section that supplies values: the one an option names, or else the configured one. -/
def chosenSection (c : Config) (o : ExpandOptions) : Text :=
  match o.sectionName with
  | some a => a.text
  | none => c.settingsSection

def sectionWarning (name shown : Text) : Logging.Record :=
  ⟨.warning, "Section '".toList ++ name ++ "' is empty or missing in ".toList ++ shown⟩

/-- The section of the settings file in effect, if there is one, and what to say about it. -/
def gatherSettings (c : Config) (w : World) (start : Location) (o : ExpandOptions) :
    Except Failure (Option Settings.Section × List Logging.Record) :=
  match locate w start o.settings c.settingsFileName with
  | .error e => .error e
  | .ok none => .ok (none, [])
  | .ok (some file) =>
    match w.tree.loadSettings w.folder file.path file.shown with
    | .error e => .error (.load e)
    | .ok f =>
      if o.sectionName = some .nothing then .error .noSection
      else
        let name := chosenSection c o
        .ok (some (f.get name), if f.hasSection name then [] else [sectionWarning name file.shown])

def gatherNotes (c : Config) (w : World) (start : Location) (o : ExpandOptions) :
    Except Failure (Option Release.Notes) :=
  match locate w start o.releaseNotes c.releaseNotesFileName with
  | .error e => .error e
  | .ok none => .ok none
  | .ok (some file) =>
    match w.tree.loadNotes w.folder file.path with
    | .error e => .error (.load e)
    | .ok notes => .ok (some notes)

/-- The sources of a run of `expand`, or why they cannot be had, after what has to be said
before. -/
def gather (c : Config) (w : World) (start : Location) (o : ExpandOptions) :
    List Logging.Record × Except Failure Sources :=
  match readDefines o.defines with
  | .error e => ([], .error e)
  | .ok defines =>
    match gatherSettings c w start o with
    | .error e => ([], .error e)
    | .ok (settings, warnings) =>
      match gatherNotes c w start o with
      | .error e => (warnings, .error e)
      | .ok notes =>
        (warnings, .ok {
          defines
          settings
          notes
          reserved := w.reserved
          ignoreCase := o.ignoreCase || c.ignoreCase
          environment := if o.noEnvironment then none else some w.environment })

end Stencil.Command
