import Stencil.Settings.Grammar
import Stencil.Settings.Reader

/-!
Settings files as stores that keep their order.  A run begins with an empty file or with lines that
are read.  Every access then answers from what happened so far, and it may add a section, or set a
key, but it takes nothing away.
-/
namespace Stencil.Settings

/-! ## The start of a run -/

/-- A file at the start of a run, with what happened to it before. -/
inductive Begins : File → History → Prop
  | empty : Begins File.empty []
  | read
      {lines : List Text}
      {f : File}
      (clean : ∀ line ∈ lines, '\n' ∉ line)
      (parsed : File.ofLines lines = .ok f) :
      Begins f (History.ofLines (lines.map .plain))

/-! ## Answers -/

namespace History

/-- A section in which some key was assigned. -/
def isInhabited (h : History) (name : Text) : Bool :=
  !(h.keys name).isEmpty

def answerIn (h : History) (name : Text) : Question → Answer
  | .itself => .found (h.sectionOf name)
  | .get key => .value (h.lastValue name key)
  | .set _ _ => .done
  | .contains key => .flag ((h.keys name).contains key)
  | .keys => .keys (h.keys name)
  | .hasKeys => .flag (h.isInhabited name)
  | .expand template => .text (Expansion.expand (.pure (h.lastValue name)) template ()).1

/-- What a file answers after all this. -/
def answer (h : History) : Access → Answer
  | .within name question => h.answerIn name question
  | .root question => h.answerIn [] question
  | .hasSection name => .flag (h.isInhabited name)
  | .sections => .listed ((h.names.filter h.isInhabited).map h.sectionOf)

end History

/-! ## Files before and after -/

/-- No section and no key of a file is missing in a later one, and none has another place. -/
structure Keeps (f g : File) : Prop where
  names : f.table.names <+: g.table.names
  keys : ∀ name, (f.get name).keys <+: (g.get name).keys

/-- At most one section was added: the one of this name, without keys, at the end. -/
def Adds (name : Text) (f g : File) : Prop :=
  g = f ∨ name ∉ f.table.names ∧ g.table = f.table ++ [(name, ⟨name, []⟩)]

/-- One key of one section has a new value, and nothing else is different. -/
structure Sets (name key : Text) (value : Option Text) (f g : File) : Prop where
  assigned : (g.get name).entries.get? key = some value
  otherKeys : ∀ other, other ≠ key →
    (g.get name).entries.get? other = (f.get name).entries.get? other
  otherSections : ∀ other, other ≠ name → g.find? other = f.find? other
  names : g.table.names = f.table.names ∨
    name ∉ f.table.names ∧ g.table.names = f.table.names ++ [name]

/-- What an access may do to a file. -/
def Access.Effect : Access → File → File → Prop
  | .within name (.set key value) => Sets name key value
  | .within name _ => Adds name
  | .root (.set key value) => Sets [] key value
  | .root _ => Adds []
  | .hasSection _ => fun f g => g = f
  | .sections => fun f g => g = f

/-! ## Files with their histories -/

/-- A file is an ordered store of what happened to it. -/
structure Follows (f : File) (h : History) : Prop where
  named : ∀ e ∈ f.table, e.2.name = e.1
  names : f.table.names = h.names
  keys : ∀ name, (f.get name).keys = h.keys name
  distinctNames : f.table.names.Nodup
  distinctKeys : ∀ s ∈ f.sections, s.keys.Nodup
  value : ∀ name key, (f.get name).get key = h.lastValue name key
  inhabited : ∀ name, f.hasSection name ↔ ∃ key value, Event.assigned name key value ∈ h
  sections : f.inhabited = (h.names.filter h.isInhabited).map h.sectionOf

end Stencil.Settings
