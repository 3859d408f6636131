import Stencil.Text.Quoted
import Stencil.Text.Word

/-!
Names of placeholders.  A name is made of word characters and full stops, and a placeholder is a
name in braces.
-/
namespace Stencil.Placeholder

open Text

/-- A word character or a full stop. -/
def isNameChar (c : Char) : Bool :=
  isWord c || c == '.'

/-- One name character or more, and nothing else. -/
def isName (t : Text) : Bool :=
  !t.isEmpty && t.all isNameChar

/-- A name in braces. -/
def wrap (name : Text) : Text :=
  '{' :: name ++ ['}']

structure InvalidName where
  name : Text
  deriving DecidableEq, Repr

def InvalidName.message (e : InvalidName) : Text :=
  "Invalid macro name: ".toList ++ quoted e.name

def format (name : Text) : Except InvalidName Text :=
  if isName name then .ok (wrap name) else .error ⟨name⟩

end Stencil.Placeholder
