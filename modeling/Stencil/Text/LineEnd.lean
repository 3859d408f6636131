import Stencil.Text.Split

/-!
Line ends.  Text read from a file has every line end turned into one line feed; a list of its lines
is cut at every character that ends a line in any convention.
-/
namespace Stencil.Text

/-- Every carriage return, with the line feed that may follow it, becomes one line feed. -/
def unifyLineEnds : Text → Text
  | [] => []
  | '\r' :: '\n' :: cs => '\n' :: unifyLineEnds cs
  | c :: cs => (if c = '\r' then '\n' else c) :: unifyLineEnds cs

/-- A character that ends a line: line feed, vertical tab, form feed, carriage return, the file,
group and record separators, next line, line separator and paragraph separator. -/
def isLineEnd (c : Char) : Bool :=
  (0x0A ≤ c.toNat && c.toNat ≤ 0x0D) || (0x1C ≤ c.toNat && c.toNat ≤ 0x1E) || c.toNat == 0x85 ||
    c.toNat == 0x2028 || c.toNat == 0x2029

/-- The lines of a text without their ends; a carriage return and a line feed end one line
together, and nothing follows the last end. -/
def splitLines : Text → List Text
  | [] => []
  | '\r' :: '\n' :: cs => [] :: splitLines cs
  | c :: cs => if isLineEnd c then [] :: splitLines cs else consHead c (splitLines cs)

/-- The pieces between all characters that end a line. -/
def pieces (t : Text) : List Text :=
  t.splitOnP isLineEnd

end Stencil.Text
