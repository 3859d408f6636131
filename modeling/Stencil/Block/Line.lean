import Stencil.Text.Blank
import Stencil.Text.Split

/-!
Lines of a text block.  A line keeps the line feed that ends it, only the last one may come without,
and an empty block has no lines.  No other character ends a line here.
-/
namespace Stencil.Block

open Text

/-- The lines of a block, each with its line feed. -/
def lines : Text → List Text
  | [] => []
  | c :: cs => if c = '\n' then [c] :: lines cs else consHead c (lines cs)

/-- What is left of the line at a position, nothing at the end of the block; a negative position
counts as the start. -/
def lineAt (block : Text) (position : Int) : Option Text :=
  (lines (block.drop position.toNat)).head?

/-- A line of blank characters only, or of none. -/
def isBlankLine (line : Text) : Bool :=
  line.all isBlank

def leadingPad (line : Text) : Text :=
  line.takeWhile isPad

/-! ## Finding the ends of a line -/

/-- Where the line of a position starts: after the nearest line feed at or before the position. -/
def lineStart (block : Text) (position : Int) : Nat :=
  if position < 0 then 0
  else
    let before := block.take (position.toNat + 1)
    before.length - (before.reverse.takeWhile (· != '\n')).length

/-- The position of the last character before the next line feed, or before the end of the block;
a position beyond the end counts as the end. -/
def lineEnd (block : Text) (position : Int) : Int :=
  position.toNat + ((block.drop position.toNat).takeWhile (· != '\n')).length - 1

end Stencil.Block
