import Stencil.Service.JsonReader
import Stencil.Text.Utf8

/-!
JSON in bytes.  How the bytes encode a text is told by a byte order mark, and without one by where
the zeros among the first four bytes stand, since a JSON text starts with an ASCII character.
-/
namespace Stencil.Service.Json

open Text

/-- How bytes encode a text. -/
inductive Encoding
  | utf8
  /-- Units of two bytes. -/
  | pairs (o : Wide.ByteOrder)
  /-- Units of four bytes. -/
  | quadruples (o : Wide.ByteOrder)
  deriving DecidableEq, Repr

namespace Encoding

/-- The byte order marks and the encodings they stand for, longer ones first. -/
def marks : List (List UInt8 × Encoding) :=
  [([0, 0, 0xFE, 0xFF], quadruples .big), ([0xFF, 0xFE, 0, 0], quadruples .little),
    ([0xFE, 0xFF], pairs .big), ([0xFF, 0xFE], pairs .little), ([0xEF, 0xBB, 0xBF], utf8)]

/-- The encoding of bytes without a byte order mark. -/
def ofZeros : List UInt8 → Encoding
  | [a, b] => if a = 0 then pairs .big else if b = 0 then pairs .little else utf8
  | a :: b :: c :: d :: _ =>
    if a = 0 then if b = 0 then quadruples .big else pairs .big
    else if b = 0 then if c = 0 ∧ d = 0 then quadruples .little else pairs .little
    else utf8
  | _ => utf8

/-- The encoding of bytes, and the bytes after the byte order mark. -/
def detect (bytes : List UInt8) : Encoding × List UInt8 :=
  match marks.find? fun m => m.1.isPrefixOf bytes with
  | some (mark, e) => (e, bytes.drop mark.length)
  | none => (ofZeros bytes, bytes)

/-- Bytes of UTF-8 in which the replacement character stands for every surrogate, which is no
character but is let through. -/
def replaceSurrogates : List UInt8 → List UInt8
  | 0xED :: a :: b :: bytes =>
    if 0xA0 ≤ a ∧ a ≤ 0xBF ∧ 0x80 ≤ b ∧ b ≤ 0xBF then
      0xEF :: 0xBF :: 0xBD :: replaceSurrogates bytes
    else 0xED :: replaceSurrogates (a :: b :: bytes)
  | byte :: bytes => byte :: replaceSurrogates bytes
  | [] => []

def decode (e : Encoding) (bytes : List UInt8) : Option Text :=
  match e with
  | utf8 => (Utf8.decode (replaceSurrogates bytes)).toOption
  | pairs o => Wide.decodePairs o bytes
  | quadruples o => Wide.decodeQuadruples o bytes

end Encoding

inductive BytesFault
  | noText
  | text (fault : Fault)
  deriving DecidableEq, Repr

def ofBytes (depthLimit : Nat) (bytes : List UInt8) : Except BytesFault Json :=
  let detected := Encoding.detect bytes
  match detected.1.decode detected.2 with
  | none => .error .noText
  | some t => (read depthLimit t).mapError .text

end Stencil.Service.Json
