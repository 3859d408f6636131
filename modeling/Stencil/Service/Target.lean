import Stencil.Text.Hex
import Stencil.Text.Quoted
import Stencil.Text.Split
import Stencil.Text.Utf8

/-!
Targets of requests.  A target is a reference: a scheme, an authority, a path, a query and a
fragment, of which all but the path may be missing.  A reference without a host of its own names a
path of this service.  Parts of the path that mean the folder itself or the folder above are taken
out before escapes are resolved, so an escaped full stop is only a character.
-/
namespace Stencil.Service

open Text

inductive TargetError
  | tooLong
  /-- A control character stands at a position. -/
  | control (c : Char) (position : Nat)
  /-- Without a scheme and an authority, the path starts with two slashes. -/
  | doubleSlash
  /-- Without a scheme and an authority, the path starts with a colon. -/
  | leadingColon
  deriving DecidableEq, Repr

def TargetError.message : TargetError → Text
  | tooLong => "URL too long".toList
  | control c position =>
    "Invalid non-printable ASCII character in URL, ".toList ++ quoted [c] ++
      " at position ".toList ++ Nat.toDigits 10 position ++ ['.']
  | doubleSlash => "Relative URLs cannot have a path starting with '//'".toList
  | leadingColon => "Relative URLs cannot have a path starting with ':'".toList

/-- The parts of a target that say which path it names. -/
structure Target where
  scheme : Text
  authority : Text
  path : Text
  deriving DecidableEq, Repr

namespace Target

/-- At most so many characters make up a target. -/
def sizeLimit : Nat := 65536

def isControl (c : Char) : Bool :=
  c.toNat < 0x20 || c.toNat == 0x7F

def isSchemeChar (c : Char) : Bool :=
  c.isAlphanum || c == '+' || c == '.' || c == '-'

/-- Cuts the scheme and the colon after it off a text, if it starts with one.  A scheme starts with
a letter, and may be empty. -/
def cutScheme (t : Text) : Text × Text :=
  let scheme := t.takeWhile isSchemeChar
  match t.drop scheme.length with
  | ':' :: rest => if (scheme.head?.map Char.isAlpha).getD true then (scheme, rest) else ([], t)
  | _ => ([], t)

/-- A query or a fragment starts here. -/
def endsPath (c : Char) : Bool :=
  c == '?' || c == '#'

/-- Cuts the authority off a text, if it starts with one after two slashes. -/
def cutAuthority (t : Text) : Text × Text :=
  match t with
  | '/' :: '/' :: cs =>
    let authority := cs.takeWhile fun c => c != '/' && !endsPath c
    (authority, cs.drop authority.length)
  | _ => ([], t)

def ofText (t : Text) : Target :=
  let scheme := cutScheme t
  let authority := cutAuthority scheme.2
  ⟨scheme.1, authority.1, authority.2.takeWhile fun c => !endsPath c⟩

/-- Adds a part to those before it: one full stop means the folder itself, two mean the folder
above, which the root does not have. -/
def addPart (parts : List Text) (part : Text) : List Text :=
  if part = ['.'] then parts
  else if part = ['.', '.'] then if parts = [[]] then parts else parts.dropLast
  else parts ++ [part]

/-- The path without parts that mean the folder itself or the folder above. -/
def settle (path : Text) : Text :=
  ['/'].intercalate ((split '/' path).foldl addPart [])

/-- Resolves the escapes in bytes: a percent sign and two digits in base sixteen stand for a
byte. -/
def unescape : List UInt8 → List UInt8
  | [] => []
  | [a] => [a]
  | [a, b] => [a, b]
  | p :: a :: b :: rest =>
    match hexNumber? [Char.ofNat a.toNat, Char.ofNat b.toNat] with
    | some n => if p = 0x25 then n.toUInt8 :: unescape rest else p :: unescape (a :: b :: rest)
    | none => p :: unescape (a :: b :: rest)

def read (t : Text) : Except TargetError Target :=
  if sizeLimit < t.length then .error .tooLong
  else match t.find? isControl with
    | some c => .error (.control c (t.idxOf c))
    | none =>
      let target := ofText t
      match target.scheme, target.authority, target.path with
      | [], [], '/' :: '/' :: _ => .error .doubleSlash
      | [], [], ':' :: _ => .error .leadingColon
      | _, _, _ => .ok target

/-- The path that a target names in the service, with its escapes.  Only a target with a scheme and
an authority may name a path that starts with several slashes. -/
def servedPath (t : Target) : Text :=
  let own := if t.scheme = [] ∧ t.authority = [] then t.path else settle t.path
  if t.scheme ≠ [] ∧ t.authority ≠ [] then own
  else settle ('/' :: own.dropWhile (· == '/'))

/-- The path that a target names in the service, nothing when it is no text.  Escapes are resolved
once for the target and once more for the routes. -/
def path? (t : Target) : Option Text :=
  (Utf8.decode (unescape (unescape (Utf8.encode t.servedPath)))).toOption

end Target

end Stencil.Service
