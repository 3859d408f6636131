import Stencil.Settings.File
import Stencil.Settings.Line
import Stencil.Text.Utf8

/-!
Reading settings.  A header opens its section again if it was there before, and the keys before the
first header belong to the root, which every read file has.
-/
namespace Stencil.Settings

open Text

inductive Error
  /-- A line is neither a remark nor a header nor an entry. -/
  | invalidLine (line : Text)
  deriving DecidableEq, Repr

def Error.message : Error → Text
  | .invalidLine line => "Settings file is invalid: ".toList ++ line

/-- The file read so far and the section to which the next entries belong. -/
structure Reading where
  file : File
  current : Text
  deriving DecidableEq, Repr

namespace Reading

def start : Reading :=
  ⟨File.empty.touch [], []⟩

def next (r : Reading) : Line → Reading
  | .remark => r
  | .header name => ⟨r.file.touch name, name⟩
  | .entry key value => ⟨r.file.set r.current key value, r.current⟩

def read (r : Reading) : List Text → Except Error File
  | [] => .ok r.file
  | line :: lines =>
    match Line.read? line with
    | some l => (r.next l).read lines
    | none => .error (.invalidLine line)

end Reading

namespace File

def ofLines (lines : List Text) : Except Error File :=
  Reading.start.read lines

/-- Reads settings from a text, which is cut at line feeds only. -/
def ofText (content : Text) : Except Error File :=
  ofLines (split '\n' content)

/-- Reads settings from the text of a file, which is cut at every kind of line end. -/
def ofFileText (content : Text) : Except Error File :=
  ofLines (splitLines content)

end File

end Stencil.Settings
