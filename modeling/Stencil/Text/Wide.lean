import Stencil.Text.Basic

/-!
Texts in units of two or four bytes.  A character beyond the first 65536 takes two units of two
bytes, a high and a low surrogate.  A surrogate that stands alone is no character, and the
replacement character stands for it.
-/
namespace Stencil.Text.Wide

/-- Which byte of a unit comes first. -/
inductive ByteOrder
  /-- The one with the highest bits. -/
  | big
  /-- The one with the lowest bits. -/
  | little
  deriving DecidableEq, Repr

def ByteOrder.number (o : ByteOrder) (unit : List UInt8) : Nat :=
  let bytes := match o with
    | .big => unit
    | .little => unit.reverse
  bytes.foldl (fun n b => 256 * n + b.toNat) 0

/-- The first of two units that are one character. -/
def isHighSurrogate (n : Nat) : Bool :=
  0xD800 ≤ n && n ≤ 0xDBFF

/-- The second of two units that are one character. -/
def isLowSurrogate (n : Nat) : Bool :=
  0xDC00 ≤ n && n ≤ 0xDFFF

def pairChar (high low : Nat) : Char :=
  Char.ofNat (0x10000 + (high - 0xD800) * 0x400 + (low - 0xDC00))

/-- The character that a number stands for on its own. -/
def unitChar (n : Nat) : Char :=
  if isHighSurrogate n || isLowSurrogate n then Char.ofNat 0xFFFD else Char.ofNat n

def ofUnits : List Nat → Text
  | [] => []
  | [n] => [unitChar n]
  | m :: n :: rest =>
    if isHighSurrogate m && isLowSurrogate n then pairChar m n :: ofUnits rest
    else unitChar m :: ofUnits (n :: rest)

/-- The units of two bytes, unless a byte is left over. -/
def pairs (o : ByteOrder) : List UInt8 → Option (List Nat)
  | [] => some []
  | a :: b :: bs => (pairs o bs).map (o.number [a, b] :: ·)
  | _ => none

/-- The units of four bytes, unless bytes are left over. -/
def quadruples (o : ByteOrder) : List UInt8 → Option (List Nat)
  | [] => some []
  | a :: b :: c :: d :: bs => (quadruples o bs).map (o.number [a, b, c, d] :: ·)
  | _ => none

def decodePairs (o : ByteOrder) (bytes : List UInt8) : Option Text :=
  (pairs o bytes).map ofUnits

/-- The text that units of four bytes encode, each of which has to be a code point. -/
def decodeQuadruples (o : ByteOrder) (bytes : List UInt8) : Option Text :=
  (quadruples o bytes).bind fun units =>
    if units.all (· < 0x110000) then some (units.map unitChar) else none

end Stencil.Text.Wide
