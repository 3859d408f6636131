import Stencil.Files.Ascent
import Stencil.Release.Reader
import Stencil.Settings.Reader

/-!
Loading texts, settings and release notes from a file tree.
-/
namespace Stencil

open Text

inductive LoadError
  | obstacle (o : Obstacle) (p : Path)
  /-- The file holds no text. -/
  | malformed (e : Utf8.Malformed)
  /-- There is no file of this name. -/
  | absent (name : Text)
  /-- The text of the file holds no settings. -/
  | settings (e : Settings.Error)
  deriving DecidableEq, Repr

def LoadError.message : LoadError → Text
  | obstacle o p => o.message p
  | malformed e => e.message
  | absent name => "File ".toList ++ name ++ " does not exist".toList
  | settings e => e.message

namespace FileTree

def decodeText (content : List UInt8) : Except LoadError Text :=
  (Utf8.read content).mapError .malformed

def loadText (t : FileTree) (folder : Location) (p : Path) : Except LoadError Text :=
  match t.read folder p with
  | .error o => .error (.obstacle o p)
  | .ok content => decodeText content

/-- The settings of the file at a path, nothing when there is no file. -/
def loadSettings? (t : FileTree) (folder : Location) (p : Path) :
    Except LoadError (Option Settings.File) :=
  match t.hidden? folder p with
  | some o => .error (.obstacle o p)
  | none =>
    if t.isFile folder p then
      match t.loadText folder p with
      | .error e => .error e
      | .ok text =>
        match Settings.File.ofFileText text with
        | .error e => .error (.settings e)
        | .ok f => .ok (some f)
    else .ok none

def loadSettings (t : FileTree) (folder : Location) (p : Path) (name : Text) :
    Except LoadError Settings.File :=
  match t.loadSettings? folder p with
  | .error e => .error e
  | .ok none => .error (.absent name)
  | .ok (some f) => .ok f

def loadNotes (t : FileTree) (folder : Location) (p : Path) : Except LoadError Release.Notes :=
  (t.loadText folder p).map Release.Notes.ofFileText

end FileTree

end Stencil
