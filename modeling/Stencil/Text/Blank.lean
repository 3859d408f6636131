import Stencil.Text.Ranges

/-!
Blank characters and trimming.  Blank are the white space characters of every script together with
the four information separators; spaces and tabs alone are the padding of a line.
-/
namespace Stencil.Text

def blankRanges : Ranges := [
  (0x09, 0x0D), (0x1C, 0x20), (0x85, 0x85), (0xA0, 0xA0), (0x1680, 0x1680), (0x2000, 0x200A),
  (0x2028, 0x2029), (0x202F, 0x202F), (0x205F, 0x205F), (0x3000, 0x3000)]

/-- White space of any script, or an information separator. -/
def isBlank (c : Char) : Bool :=
  blankRanges.covers c.toNat

/-- A space or a tab. -/
def isPad (c : Char) : Bool :=
  c == ' ' || c == '\t'

def trimStart (t : Text) : Text :=
  t.dropWhile isBlank

def trimEnd (t : Text) : Text :=
  (t.reverse.dropWhile isBlank).reverse

def trim (t : Text) : Text :=
  trimEnd (trimStart t)

end Stencil.Text
