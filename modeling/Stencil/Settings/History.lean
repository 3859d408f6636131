import Stencil.Settings.Access

/-!
Histories of settings files.  A section is opened, or a key is assigned in it; nothing else happens
to a file.  The file of a history has every section that was opened and every key that was assigned,
in order of first appearance, each key with its last value.
-/
namespace Stencil.Settings

inductive Event
  | opened (name : Text)
  /-- A key is given a value, or goes without one. -/
  | assigned (name key : Text) (value : Option Text)
  deriving DecidableEq, Repr

namespace Event

/-- The section to which something happens. -/
def place : Event → Text
  | opened name => name
  | assigned name _ _ => name

/-- The key that is assigned, if one is in the section of this name. -/
def keyIn? (name : Text) : Event → Option Text
  | opened _ => none
  | assigned other key _ => if other = name then some key else none

/-- The value that is assigned to a key of a section, if one is. -/
def valueOf? (name key : Text) : Event → Option (Option Text)
  | opened _ => none
  | assigned other otherKey value => if other = name ∧ otherKey = key then some value else none

end Event

/-- What happened to a file, the first thing first. -/
abbrev History := List Event

namespace History

/-- The sections in order of creation. -/
def names (h : History) : List Text :=
  (h.map Event.place).eraseDups

/-- The keys that were assigned in a section, in order of first assignment. -/
def keys (h : History) (name : Text) : List Text :=
  (h.filterMap (Event.keyIn? name)).eraseDups

/-- The value last assigned to a key, nothing when there is none. -/
def lastValue (h : History) (name key : Text) : Option Text :=
  (h.filterMap (Event.valueOf? name key)).getLast?.join

def sectionOf (h : History) (name : Text) : Section :=
  ⟨name, .tabulate (h.keys name) (h.lastValue name)⟩

def file (h : History) : File :=
  ⟨.tabulate h.names h.sectionOf⟩

end History

/-! ## What accesses add to a history -/

def Question.event (name : Text) : Question → Event
  | .set key value => .assigned name key value
  | _ => .opened name

def Access.events : Access → History
  | .within name question => [question.event name]
  | .root question => [question.event []]
  | .hasSection _ => []
  | .sections => []

end Stencil.Settings
