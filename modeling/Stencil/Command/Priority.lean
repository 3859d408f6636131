import Stencil.Command.Run

/-!
The priority of the sources of `expand`: the definitions on the command line, the settings and the
release notes in effect, and the environment.
-/
namespace Stencil.Command

open Text

/-! ## Definitions -/

/-- The name that a definition gives a value: the text before its first equals sign. -/
def definedName (define : Text) : Text :=
  define.takeWhile (· != '=')

def definedValue (define : Text) : Text :=
  (define.dropWhile (· != '=')).tail

/-- The value of the last definition of a name. -/
def lastDefined (defines : List Text) (name : Text) : Option Text :=
  (defines.reverse.find? fun define => definedName define == name).map definedValue

/-! ## Files in effect -/

/-- An option that names no file: it is not given, or empty. -/
def NamesNothing (given : Option Argument) : Prop :=
  ∀ argument ∈ given, argument.text = []

/-- The path of the file in effect, if there is one: the path that an option names, or else that of
the nearest file of the configured name. -/
inductive InEffect (w : World) (start : Location) (name : Text) :
    Option Argument → Option Path → Prop
  | named {given : Text} (nonempty : given ≠ []) :
      InEffect w start name (some (.word given)) (some (Path.ofText given))
  | found {given : Option Argument} {l : Location} (unnamed : NamesNothing given)
      (nearest : Location.Nearest ascentLimit start
        (fun l => w.tree.isFile [] ((Path.ofLocation l).join (Path.ofText name))) l) :
      InEffect w start name given (some ((Path.ofLocation l).join (Path.ofText name)))
  | missing {given : Option Argument} (unnamed : NamesNothing given)
      (nowhere : ∀ l, l <+: start → start.length < l.length + ascentLimit →
        w.tree.isFile [] ((Path.ofLocation l).join (Path.ofText name)) = false) :
      InEffect w start name given none

/-- The file at a path holds these settings. -/
def HoldsSettings (w : World) (p : Path) (file : Settings.File) : Prop :=
  ∃ text, w.tree.loadText w.folder p = .ok text ∧ Settings.File.ofFileText text = .ok file

def HoldsNotes (w : World) (p : Path) (notes : Release.Notes) : Prop :=
  ∃ text, w.tree.loadText w.folder p = .ok text ∧ Release.Notes.ofFileText text = notes

/-! ## Priority -/

/-- The settings and the release notes that a run may take values from. -/
structure Supply where
  settings : Option Settings.File
  notes : Option Release.Notes

namespace Supply

/-- They are what the files in effect hold. -/
structure Holds (s : Supply) (c : Config) (w : World) (o : ExpandOptions) : Prop where
  settings : ∃ path?,
    InEffect w (searchStart w.folder o.template) c.settingsFileName o.settings path? ∧
      Option.Rel (HoldsSettings w) path? s.settings
  notes : ∃ path?,
    InEffect w (searchStart w.folder o.template) c.releaseNotesFileName o.releaseNotes path? ∧
      Option.Rel (HoldsNotes w) path? s.notes

/-- What every source knows about a name, from the highest priority to the lowest. -/
def levels (s : Supply) (c : Config) (w : World) (o : ExpandOptions) (name : Text) :
    List (Option Text) := [
  lastDefined (o.defines.map Argument.text) name,
  s.settings.bind fun file => (file.get (chosenSection c o)).get name,
  s.notes.bind fun notes => notes.attribute? (o.ignoreCase || c.ignoreCase) name,
  if o.noEnvironment then none else w.environment.get? name]

/-- What the first source that knows a name answers, be it an empty text. -/
def answer (s : Supply) (c : Config) (w : World) (o : ExpandOptions) (name : Text) :
    Option Text :=
  (s.levels c w o name).findSome? id

end Supply

end Stencil.Command
