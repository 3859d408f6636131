import Stencil.Text.Split

/-!
Paths.  A path is written with single slashes between its parts and without parts that mean the
folder itself; parts that mean the folder above are kept, since only the folders met on the way say
where they lead.  Two slashes in front are kept as two, more than two count as one.
-/
namespace Stencil

open Text

/-- The names that lead from the root of the file system to a file or folder. -/
abbrev Location := List Text

/-- The part of a path that means the folder above. -/
def above : Text := ['.', '.']

def Location.enter (here : Location) (part : Text) : Location :=
  if part = above then here.dropLast else here ++ [part]

/-- The locations met along the parts of a path, the first and the last included. -/
def Location.along (here : Location) : List Text → List Location
  | [] => [here]
  | part :: parts => here :: along (here.enter part) parts

/-- How many bytes the characters of a text take in UTF-8. -/
def byteCount (t : Text) : Nat :=
  t.foldl (fun n c => n + c.utf8Size) 0

/-- A path: how many slashes it starts with, and its parts. -/
structure Path where
  slashes : Nat
  parts : List Text
  deriving DecidableEq, Repr

namespace Path

def ofText (t : Text) : Path :=
  let count := (t.takeWhile (· == '/')).length
  ⟨if count ≤ 2 then count else 1, (split '/' t).filter fun part => part != [] && part != ['.']⟩

def ofLocation (l : Location) : Path :=
  ⟨1, l⟩

def render (p : Path) : Text :=
  if p.slashes = 0 ∧ p.parts = [] then ['.']
  else List.replicate p.slashes '/' ++ ['/'].intercalate p.parts

def hasNull (p : Path) : Bool :=
  p.parts.any fun part => part.contains '\x00'

/-- A path below another one; a path that starts at the root stands for itself. -/
def join (p q : Path) : Path :=
  if q.slashes = 0 then { p with parts := p.parts ++ q.parts } else q

def parent (p : Path) : Path :=
  { p with parts := p.parts.dropLast }

/-- The location from which the parts of a path lead on, seen from a folder. -/
def base (p : Path) (folder : Location) : Location :=
  if p.slashes = 0 then folder else []

/-- The parts that lead from the root to a path, seen from a folder. -/
def route (p : Path) (folder : Location) : List Text :=
  p.base folder ++ p.parts

/-- The location that a path names, whether anything is there or not: a part that means the folder
above takes the part before it away. -/
def resolve (p : Path) (folder : Location) : Location :=
  (p.route folder).foldl Location.enter []

/-- The locations on the way from the root to a path, both included. -/
def way (p : Path) (folder : Location) : List Location :=
  Location.along [] (p.route folder)

end Path

end Stencil
