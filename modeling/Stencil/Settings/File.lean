import Stencil.Table

/-!
Settings: sections of keys.  A key may come without a value.  Sections and keys keep the order in
which they first appeared, and the section without a name is the root.
-/
namespace Stencil.Settings

structure Section where
  name : Text
  entries : Table (Option Text)
  deriving DecidableEq, Repr

namespace Section

def keys (s : Section) : List Text :=
  s.entries.names

def hasKeys (s : Section) : Bool :=
  !s.entries.isEmpty

/-- The value of a key, nothing when there is no such key or it has no value. -/
def get (s : Section) (key : Text) : Option Text :=
  (s.entries.get? key).join

def contains (s : Section) (key : Text) : Bool :=
  s.entries.has key

/-- Gives a value to a key, or takes it away. -/
def set (s : Section) (key : Text) (value : Option Text) : Section :=
  { s with entries := s.entries.put key value }

end Section

/-- Sections by the names under which they are looked up. -/
structure File where
  table : Table Section
  deriving DecidableEq, Repr

namespace File

def empty : File := ⟨[]⟩

def sections (f : File) : List Section :=
  f.table.map Prod.snd

def find? (f : File) (name : Text) : Option Section :=
  f.table.get? name

/-- The section of a name, without keys when the file does not have it. -/
def get (f : File) (name : Text) : Section :=
  (f.find? name).getD ⟨name, []⟩

/-- The file with a section of this name, which is added at the end when it is missing. -/
def touch (f : File) (name : Text) : File :=
  if (f.find? name).isSome then f else ⟨f.table.put name ⟨name, []⟩⟩

/-- The file after a change to the section of a name, which is added first when it is missing. -/
def modify (f : File) (name : Text) (change : Section → Section) : File :=
  ⟨(f.touch name).table.put name (change (f.get name))⟩

def set (f : File) (name key : Text) (value : Option Text) : File :=
  f.modify name fun s => s.set key value

/-- The section of a name exists and has a key. -/
def hasSection (f : File) (name : Text) : Bool :=
  match f.find? name with
  | some s => s.hasKeys
  | none => false

/-- The sections that have keys. -/
def inhabited (f : File) : List Section :=
  f.sections.filter Section.hasKeys

end File

end Stencil.Settings
