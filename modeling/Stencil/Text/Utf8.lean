import Stencil.Text.Hex
import Stencil.Text.LineEnd

/-!
UTF-8.  Decoding is strict: it stops at the first bytes that no character has, and reports where
they stand and what is wrong with them.  Only shortest forms of code points that are characters are
accepted.
-/
namespace Stencil.Text.Utf8

inductive Fault
  | invalidStart
  | invalidContinuation
  | unexpectedEnd
  deriving DecidableEq, Repr

def Fault.reason : Fault → Text
  | .invalidStart => "invalid start byte".toList
  | .invalidContinuation => "invalid continuation byte".toList
  | .unexpectedEnd => "unexpected end of data".toList

/-- The bytes at fault: where they start, how many they are, the first of them and why. -/
structure Malformed where
  position : Nat
  count : Nat
  lead : UInt8
  fault : Fault
  deriving DecidableEq, Repr

/-- One byte is named by its value, several by the range of their positions. -/
def Malformed.message (e : Malformed) : Text :=
  let place :=
    if e.count = 1 then
      "byte 0x".toList ++ hexDigits 2 e.lead.toNat ++ " in position ".toList ++
        Nat.toDigits 10 e.position
    else
      "bytes in position ".toList ++ Nat.toDigits 10 e.position ++ '-' ::
        Nat.toDigits 10 (e.position + e.count - 1)
  "'utf-8' codec can't decode ".toList ++ place ++ ": ".toList ++ e.fault.reason

/-- A character that is not complete: its first byte, how many of its bytes have been read and how
many are missing, the least and the greatest value of the next one, and the bits read so far. -/
structure Pending where
  lead : UInt8
  seen : Nat
  missing : Nat
  low : Nat
  high : Nat
  bits : Nat
  deriving DecidableEq, Repr

/-- The character that a first byte above ASCII begins.  The second byte is restricted where a
shorter form, a surrogate or a number beyond the last code point would begin. -/
def begin? (b : UInt8) : Option Pending :=
  let n := b.toNat
  if 0xC2 ≤ n ∧ n ≤ 0xDF then some ⟨b, 1, 1, 0x80, 0xBF, n - 0xC0⟩
  else if n = 0xE0 then some ⟨b, 1, 2, 0xA0, 0xBF, 0⟩
  else if n = 0xED then some ⟨b, 1, 2, 0x80, 0x9F, 0xD⟩
  else if 0xE1 ≤ n ∧ n ≤ 0xEF then some ⟨b, 1, 2, 0x80, 0xBF, n - 0xE0⟩
  else if n = 0xF0 then some ⟨b, 1, 3, 0x90, 0xBF, 0⟩
  else if 0xF1 ≤ n ∧ n ≤ 0xF3 then some ⟨b, 1, 3, 0x80, 0xBF, n - 0xF0⟩
  else if n = 0xF4 then some ⟨b, 1, 3, 0x80, 0x8F, 4⟩
  else none

def Pending.extend (p : Pending) (b : UInt8) : Pending :=
  { p with
    seen := p.seen + 1
    missing := p.missing - 1
    low := 0x80
    high := 0xBF
    bits := p.bits * 64 + (b.toNat - 0x80) }

/-- Decodes the bytes from a position on, between characters or inside one. -/
def decodeFrom (position : Nat) : Option Pending → List UInt8 → Except Malformed Text
  | none, [] => .ok []
  | some p, [] => .error ⟨position - p.seen, p.seen, p.lead, .unexpectedEnd⟩
  | none, b :: bs =>
    if b.toNat < 0x80 then
      (decodeFrom (position + 1) none bs).map (Char.ofNat b.toNat :: ·)
    else match begin? b with
      | some p => decodeFrom (position + 1) (some p) bs
      | none => .error ⟨position, 1, b, .invalidStart⟩
  | some p, b :: bs =>
    if p.low ≤ b.toNat ∧ b.toNat ≤ p.high then
      let q := p.extend b
      if q.missing = 0 then (decodeFrom (position + 1) none bs).map (Char.ofNat q.bits :: ·)
      else decodeFrom (position + 1) (some q) bs
    else .error ⟨position - p.seen, p.seen, p.lead, .invalidContinuation⟩

def decode (bytes : List UInt8) : Except Malformed Text :=
  decodeFrom 0 none bytes

def encode (t : Text) : List UInt8 :=
  t.flatMap String.utf8EncodeChar

/-- The content of a text file: decoded, with every line end as one line feed. -/
def read (bytes : List UInt8) : Except Malformed Text :=
  (decode bytes).map unifyLineEnds

end Stencil.Text.Utf8
