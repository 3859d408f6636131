import Stencil.Block.Error
import Stencil.Block.Line

/-!
Indentation of a text block: finding it, removing it and putting it on.
-/
namespace Stencil.Block

open Text

/-- The first of the shortest texts of a list, the empty text when there is none. -/
def shortest : List Text → Text
  | [] => []
  | t :: ts => ts.foldl (fun best u => if u.length < best.length then u else best) t

/-- The lines that are not blank. -/
def inkedLines (block : Text) : List Text :=
  (lines block).filter fun line => !isBlankLine line

/-- The shortest run of leading spaces and tabs among the lines that are not blank. -/
def commonIndent (block : Text) : Text :=
  shortest ((inkedLines block).map leadingPad)

/-- Removes an indent from a line that starts with it; another line stays as it is. -/
def stripIndent (indent line : Text) : Text :=
  if indent.isPrefixOf line then line.drop indent.length else line

/-- Removes an indent from a line.  A strict request refuses a line that is not blank and does not
start with the indent. -/
def deindentLine (indent line : Text) (strict : Bool) : Except Error Text :=
  if strict && !indent.isPrefixOf line && !isBlankLine line then .error (.misindented line)
  else .ok (stripIndent indent line)

def deindent (indent : Option Text) (block : Text) (strict : Bool) : Except Error Text :=
  let indent := indent.getD (commonIndent block)
  ((lines block).mapM fun line => deindentLine indent line strict).map List.flatten

/-- An indented line.  A blank line stays as it is when a line feed ends it and vanishes if not. -/
def indentLine (indent line : Text) : Text :=
  if isBlankLine line then (if line.getLast? = some '\n' then line else []) else indent ++ line

/-- Puts an indent on every line; an empty indent leaves the block alone. -/
def indentBlock (indent block : Text) : Text :=
  if indent.isEmpty then block else (lines block).flatMap (indentLine indent)

def reindent (indent block : Text) (strict : Bool) : Except Error Text :=
  (deindent (some (commonIndent block)) block strict).map (indentBlock indent)

end Stencil.Block
