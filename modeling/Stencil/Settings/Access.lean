import Stencil.Source.Source

/-!
Accesses to a settings file.  To look a section up adds it when it is missing, whatever is asked of
it then; the two questions about the sections of a file add nothing.
-/
namespace Stencil.Settings

/-- What is asked of a section, or done to it. -/
inductive Question
  | itself
  | get (key : Text)
  | set (key : Text) (value : Option Text)
  | contains (key : Text)
  | keys
  | hasKeys
  /-- The section is the source of the values of a template. -/
  | expand (template : Text)
  deriving DecidableEq, Repr

inductive Access
  /-- The section of a name is looked up. -/
  | within (name : Text) (question : Question)
  /-- The root is looked up. -/
  | root (question : Question)
  | hasSection (name : Text)
  | sections
  deriving DecidableEq, Repr

inductive Answer
  | done
  | found (s : Section)
  | listed (sections : List Section)
  | flag (b : Bool)
  | value (v : Option Text)
  | keys (names : List Text)
  | text (t : Text)
  deriving DecidableEq, Repr

/-- What a section answers, and the section afterwards. -/
def Section.answer (s : Section) : Question → Answer × Section
  | .itself => (.found s, s)
  | .get key => (.value (s.get key), s)
  | .set key value => (.done, s.set key value)
  | .contains key => (.flag (s.contains key), s)
  | .keys => (.keys s.keys, s)
  | .hasKeys => (.flag s.hasKeys, s)
  | .expand template => (.text ((Source.settings s).expand false template ()).1, s)

namespace File

def visit (f : File) (name : Text) (question : Question) : Answer × File :=
  (((f.get name).answer question).1, f.modify name fun s => (s.answer question).2)

/-- What a file answers, and the file afterwards. -/
def access (f : File) : Access → Answer × File
  | .within name question => f.visit name question
  | .root question => f.visit [] question
  | .hasSection name => (.flag (f.hasSection name), f)
  | .sections => (.listed f.inhabited, f)

/-- The file after some accesses, one after the other. -/
def after (f : File) (accesses : List Access) : File :=
  accesses.foldl (fun f a => (f.access a).2) f

end File

end Stencil.Settings
