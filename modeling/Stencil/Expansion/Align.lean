import Stencil.Block.Edge

/-!
Aligning a value with the placeholder that it replaces: its blank edges are trimmed, and every line
after the first is moved to the column of the placeholder.
-/
namespace Stencil.Expansion

open Block

/-- The indent for the lines of a value, given the text before its placeholder: this text itself
when it is blank, and its own indent when it is not. -/
def marginOf (lead : Text) : Text :=
  if isBlankLine lead then lead else commonIndent lead

/-- Puts an indent on every line but the first. -/
def hang (margin : Text) (value : Text) : Text :=
  match lines value with
  | [] => []
  | first :: others => first ++ others.flatMap (margin ++ ·)

/-- Aligns a value with a placeholder, given the text before the placeholder on its line. -/
def align (value lead : Text) : Text :=
  let body := trimEdges value
  if '\n' ∈ body then hang (marginOf lead) body else body

/-- The text before a position on its line, given everything before the position, last character
first. -/
def leadOf (passed : Text) : Text :=
  (passed.takeWhile (· != '\n')).reverse

/-- The part of a template from the start of the line of a position up to the position.  A negative
position counts from the end of the template. -/
def leadAt (template : Text) (position : Int) : Text :=
  let stop := if position < 0 then position + template.length else position
  (template.take stop.toNat).drop (lineStart template position)

def alignAt (value template : Text) (position : Int) : Text :=
  align value (leadAt template position)

end Stencil.Expansion
