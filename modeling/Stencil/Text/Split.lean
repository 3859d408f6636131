import Stencil.Text.Basic

/-!
Cutting a text at a separator.
-/
namespace Stencil.Text

/-- Puts a character in front of the first piece. -/
def consHead (c : Char) : List Text → List Text
  | [] => [[c]]
  | piece :: pieces => (c :: piece) :: pieces

/-- The pieces between the occurrences of a separator; a text without one is a single piece. -/
def split (separator : Char) : Text → List Text
  | [] => [[]]
  | c :: cs => if c = separator then [] :: split separator cs else consHead c (split separator cs)

/-- The parts before and after the first occurrence of a separator, when there is one. -/
def cut? (separator : Char) : Text → Option (Text × Text)
  | [] => none
  | c :: cs =>
    if c = separator then some ([], cs)
    else (cut? separator cs).map fun parts => (c :: parts.1, parts.2)

end Stencil.Text
