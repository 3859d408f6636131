import Stencil.Release.Reader
import Stencil.Text.Pattern

/-!
The lines of a changelog by patterns.  A header line and a change line are matched as a whole, the
version and the tag of a header and the text of a change in groups.
-/
namespace Stencil.Release

open Text

namespace Grammar

open Pattern

def versionGroup : Text := "version".toList

def tagGroup : Text := "tag".toList

def entryGroup : Text := "entry".toList

def sign (c : Char) : Pattern :=
  one (· == c)

def atLeastOne (inClass : Char → Bool) : Pattern :=
  both (one inClass) (most inClass)

def anything : Pattern :=
  most fun _ => true

/-- A full stop, digits, and what may follow them. -/
def dotted (others : Pattern) : Pattern :=
  both (sign '.') (both (atLeastOne isDigit) others)

/-- One to three numbers. -/
def version : Pattern :=
  both (atLeastOne isDigit) (maybe (dotted (maybe (both (sign '.') (atLeastOne isDigit)))))

def tag : Pattern :=
  both (sign '-') (group tagGroup (atLeastOne fun c => !isBlank c))

def header : Pattern :=
  both (sign '#') <| both (sign '#') <| both (atLeastOne isBlank) <|
    both (group versionGroup version) <| both (maybe tag) anything

/-- A bullet of asterisks may stand before a change. -/
def change : Pattern :=
  both (maybe (both (atLeastOne (· == '*')) (atLeastOne isBlank))) (group entryGroup anything)

end Grammar

/-- Reads a header line by its pattern; a tag of blank characters would be none. -/
def Header.match? (line : Text) : Option Header :=
  (Grammar.header.fullMatch? line).map fun groups =>
    ⟨(groups.get? Grammar.versionGroup).getD [],
      (groups.get? Grammar.tagGroup).filter fun tag => !tag.all isBlank⟩

def changeMatch? (line : Text) : Option Text :=
  (Grammar.change.fullMatch? line).bind fun groups => groups.get? Grammar.entryGroup

end Stencil.Release
