import Stencil.Text.Blank
import Stencil.Text.Digit
import Stencil.Text.Split

/-!
Integers in decimal notation.  A numeral is an optional sign and digits of any script, single
underscores may stand between digits, and white space may surround it.  Numerals of very many digits
are not read.
-/
namespace Stencil.Text

/-- An integer with more digits than this is not read. -/
def digitLimit : Nat := 4300

/-- White space that may surround a numeral: every blank but the information separators. -/
def isNumeralSpace (c : Char) : Bool :=
  isBlank c && !(0x1C ≤ c.toNat && c.toNat ≤ 0x1F)

/-- Why a text is not read as an integer. -/
inductive NumeralFault
  | malformed
  /-- It starts with so many digits that it is not read. -/
  | tooLong (digits : Nat)
  deriving DecidableEq, Repr

def digitsValue (digits : Text) : Nat :=
  digits.foldl (fun n c => 10 * n + (digitValue? c).getD 0) 0

/-- The number that a text without a sign writes.  Its digits are counted before what follows them
is looked at, but misplaced underscores among them are found first. -/
def readNat (t : Text) : Except NumeralFault Nat :=
  let run := t.takeWhile fun c => isDigit c || c == '_'
  let digits := run.filter isDigit
  if [] ∈ split '_' run then .error .malformed
  else if digitLimit < digits.length then .error (.tooLong digits.length)
  else if run.length < t.length then .error .malformed
  else .ok (digitsValue digits)

def readInt (t : Text) : Except NumeralFault Int :=
  let core := ((t.dropWhile isNumeralSpace).reverse.dropWhile isNumeralSpace).reverse
  match core with
  | '+' :: cs => (readNat cs).map Int.ofNat
  | '-' :: cs => (readNat cs).map fun n => -Int.ofNat n
  | cs => (readNat cs).map Int.ofNat

def readInt? (t : Text) : Option Int :=
  (readInt t).toOption

def ofNat (n : Nat) : Text :=
  Nat.toDigits 10 n

def ofInt : Int → Text
  | .ofNat n => ofNat n
  | .negSucc n => '-' :: ofNat (n + 1)

end Stencil.Text
