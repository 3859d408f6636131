import Stencil.Text.Numeral
import Stencil.Text.Quoted

/-!
What can be wrong with a request about a text block.
-/
namespace Stencil.Block

open Text

inductive Error
  /-- A line that is not blank does not start with the indent. -/
  | misindented (line : Text)
  /-- A tab cannot be less than one column wide. -/
  | tabSize (size : Int)
  /-- No way to treat an edge has this name. -/
  | unknownMode (name : Text)
  deriving DecidableEq, Repr

def Error.message : Error → Text
  | .misindented line => "Line is not properly indented: ".toList ++ quoted line
  | .tabSize size => "Tab size must be positive, got ".toList ++ ofInt size
  | .unknownMode name => quoted name ++ " is not a valid NewLineMode".toList

end Stencil.Block
