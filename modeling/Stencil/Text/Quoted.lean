import Stencil.Text.Hex
import Stencil.Text.Printable

/-!
Quoted texts, as messages and lists show them: the quote that needs no escape is preferred, the
backslash and the quote are escaped, and characters that are not printable are named by number.
-/
namespace Stencil.Text

/-- A character by its number, in the shortest of the three forms that holds it. -/
def escapeNumber (n : Nat) : Text :=
  if n < 0x100 then '\\' :: 'x' :: hexDigits 2 n
  else if n < 0x10000 then '\\' :: 'u' :: hexDigits 4 n
  else '\\' :: 'U' :: hexDigits 8 n

def escapeChar (quote c : Char) : Text :=
  if c = quote ∨ c = '\\' then ['\\', c]
  else if c = '\t' then ['\\', 't']
  else if c = '\n' then ['\\', 'n']
  else if c = '\r' then ['\\', 'r']
  else if isPrintable c then [c]
  else escapeNumber c.toNat

/-- Double quotes enclose a text that holds a single quote and no double one, single quotes enclose
every other text. -/
def quoteFor (t : Text) : Char :=
  if '\'' ∈ t ∧ '"' ∉ t then '"' else '\''

def quoted (t : Text) : Text :=
  let quote := quoteFor t
  quote :: t.flatMap (escapeChar quote) ++ [quote]

end Stencil.Text
