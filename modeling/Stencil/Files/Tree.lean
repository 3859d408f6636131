import Stencil.Files.Path
import Stencil.Text.Numeral
import Stencil.Text.Quoted

/-!
File trees.  Nothing but files and folders is in a tree.  A path is walked part by part, and every
part but the last has to lead to a folder that may be searched.
-/
namespace Stencil

open Text

inductive Entry
  | folder
  | file (content : List UInt8)
  deriving DecidableEq, Repr

/-- What may be done with an entry: names are looked up in a folder, a file is read, and a file is
written or a new entry is put in a folder. -/
inductive Right
  | search
  | read
  | write
  deriving DecidableEq, Repr

inductive Obstacle
  | missing
  | present
  /-- A part that has to be a folder is a file. -/
  | notFolder
  | isFolder
  /-- A right is missing. -/
  | denied
  /-- The path or one of its parts is longer than names may be. -/
  | nameTooLong
  | nullCharacter
  deriving DecidableEq, Repr

/-- The message about an obstacle at a path; most obstacles have a number. -/
def Obstacle.message (o : Obstacle) (p : Path) : Text :=
  let numbered (number : Nat) (reason : String) : Text :=
    "[Errno ".toList ++ Text.ofNat number ++ "] ".toList ++ reason.toList ++ ": ".toList ++
      quoted p.render
  match o with
  | denied => numbered 13 "Permission denied"
  | missing => numbered 2 "No such file or directory"
  | present => numbered 17 "File exists"
  | notFolder => numbered 20 "Not a directory"
  | isFolder => numbered 21 "Is a directory"
  | nameTooLong => numbered 36 "File name too long"
  | nullCharacter => "embedded null byte".toList

/-- An obstacle that keeps a path from being looked at.  The others leave it known that nothing is
there. -/
def Obstacle.Hides (o : Obstacle) : Prop :=
  o = .nameTooLong ∨ o = .denied

instance (o : Obstacle) : Decidable o.Hides :=
  inferInstanceAs (Decidable (_ ∨ _))

/-- Files and folders by location.  The root is a folder that is not listed. -/
structure FileTree where
  entries : List (Location × Entry)
  /-- The rights that are missing, and where. -/
  barred : List (Location × Right) := []
  deriving DecidableEq, Repr

namespace FileTree

def get? (t : FileTree) (l : Location) : Option Entry :=
  if l = [] then some .folder else (t.entries.find? fun e => e.1 == l).map Prod.snd

/-- Puts an entry at a location, in place of the one already there. -/
def put (t : FileTree) (l : Location) (entry : Entry) : FileTree :=
  { t with
    entries :=
      if t.entries.any fun e => e.1 == l then
        t.entries.map fun e => if e.1 == l then (l, entry) else e
      else t.entries ++ [(l, entry)] }

def bars (t : FileTree) (l : Location) (right : Right) : Bool :=
  t.barred.contains (l, right)

/-- Where the right to write a location is looked up: at the entry itself, or at its folder when
nothing is there. -/
def gate (t : FileTree) (l : Location) : Location :=
  if (t.get? l).isSome then l else l.dropLast

/-- A part of a path has at most so many bytes. -/
def partLimit : Nat := 255

/-- A path has at most so many bytes. -/
def pathLimit : Nat := 4095

def walk (t : FileTree) : Location → List Text → Except Obstacle Location
  | here, [] => .ok here
  | here, part :: parts =>
    match t.get? here with
    | some .folder =>
      if t.bars here .search then .error .denied
      else if partLimit < byteCount part then .error .nameTooLong
      else t.walk (here.enter part) parts
    | some (.file _) => .error .notFolder
    | none => .error .missing

/-- The location that a path leads to, seen from a folder. -/
def locate (t : FileTree) (folder : Location) (p : Path) : Except Obstacle Location :=
  if p.hasNull then .error .nullCharacter
  else if pathLimit < byteCount p.render then .error .nameTooLong
  else t.walk (p.base folder) p.parts

/-- Why a path cannot be looked at, if it cannot. -/
def hidden? (t : FileTree) (folder : Location) (p : Path) : Option Obstacle :=
  match t.locate folder p with
  | .error o => if o.Hides then some o else none
  | .ok _ => none

/-- What is at a path, nothing when the way to it is blocked. -/
def at? (t : FileTree) (folder : Location) (p : Path) : Option Entry :=
  match t.locate folder p with
  | .ok l => t.get? l
  | .error _ => none

def isFile (t : FileTree) (folder : Location) (p : Path) : Bool :=
  match t.at? folder p with
  | some (.file _) => true
  | _ => false

def isFolder (t : FileTree) (folder : Location) (p : Path) : Bool :=
  t.at? folder p == some .folder

def read (t : FileTree) (folder : Location) (p : Path) : Except Obstacle (List UInt8) :=
  match t.locate folder p with
  | .error o => .error o
  | .ok l =>
    match t.get? l with
    | none => .error .missing
    | some entry =>
      if t.bars l .read then .error .denied
      else match entry with
        | .file content => .ok content
        | .folder => .error .isFolder

/-- The location of a file that may be written, whether it is there or is made in its folder. -/
def place (t : FileTree) (folder : Location) (p : Path) : Except Obstacle Location :=
  match t.locate folder p with
  | .error o => .error o
  | .ok l =>
    if t.get? l = some .folder then .error .isFolder
    else if t.bars (t.gate l) .write then .error .denied
    else .ok l

/-- Gives the file at a path a content; the file is made when its folder is there. -/
def write (t : FileTree) (folder : Location) (p : Path) (content : List UInt8) :
    Except Obstacle FileTree :=
  (t.place folder p).map fun l => t.put l (.file content)

/-- Opens the file at a path to add to it; the file is made when its folder is there. -/
def extend (t : FileTree) (folder : Location) (p : Path) : Except Obstacle FileTree :=
  (t.place folder p).map fun l => if (t.get? l).isSome then t else t.put l (.file [])

/-- A path that leads to a location without a folder, which may be written. -/
def IsWritable (t : FileTree) (folder : Location) (p : Path) : Prop :=
  ∃ l, t.locate folder p = .ok l ∧ t.get? l ≠ some .folder ∧ t.bars (t.gate l) .write = false

/-- Makes the folder at a path, which has nothing there and whose own folder is there. -/
def makeFolder (t : FileTree) (folder : Location) (p : Path) : Except Obstacle FileTree :=
  match t.locate folder p with
  | .error o => .error o
  | .ok l =>
    if (t.get? l).isSome then .error .present
    else if t.bars (t.gate l) .write then .error .denied
    else .ok (t.put l .folder)

/-- Makes the folder at a path unless it is there, and before it those that are missing on the way;
at most `count` folders are made.  A failure names the path that could not be made. -/
def makeFoldersWithin (t : FileTree) (folder : Location) :
    Nat → Path → Except (Obstacle × Path) FileTree
  | 0, p => .error (.missing, p)
  | count + 1, p =>
    match t.makeFolder folder p with
    | .ok made => .ok made
    | .error .missing => do
      let above ← t.makeFoldersWithin folder count p.parent
      match above.makeFolder folder p with
      | .ok made => .ok made
      | .error o => if above.isFolder folder p then .ok above else .error (o, p)
    | .error o => if t.isFolder folder p then .ok t else .error (o, p)

/-- Makes the folders that are missing on the way to a path and at its end. -/
def makeFolders (t : FileTree) (folder : Location) (p : Path) :
    Except (Obstacle × Path) FileTree :=
  t.makeFoldersWithin folder (p.parts.length + 1) p

/-- The entries of a tree that another one does not have in their places. -/
def changesFrom (t before : FileTree) : List (Location × Entry) :=
  t.entries.filter fun e => before.get? e.1 != some e.2

end FileTree

end Stencil
