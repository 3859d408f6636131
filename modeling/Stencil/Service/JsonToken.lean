import Stencil.Service.Json
import Stencil.Text.Hex
import Stencil.Text.Numeral
import Stencil.Text.Wide

/-!
Tokens of JSON.  A text, a number and a word are one token each, and blank are only spaces, tabs,
line feeds and carriage returns.  Where no token is, the tokens end with a mark of that: whether it
matters is up to what stands before it.
-/
namespace Stencil.Service.Json

open Text

inductive Token
  | openBrace
  | closeBrace
  | openBracket
  | closeBracket
  | colon
  | comma
  | scalar (v : Json)
  /-- An integer with so many digits that it is not read. -/
  | longInteger
  /-- No token; nothing after it is read. -/
  | unreadable
  deriving Repr

namespace Token

/-! ## Texts -/

/-- The character that a letter after a backslash stands for. -/
def escape? : Char → Option Char
  | '"' => some '"'
  | '\\' => some '\\'
  | '/' => some '/'
  | 'b' => some '\x08'
  | 'f' => some '\x0c'
  | 'n' => some '\n'
  | 'r' => some '\r'
  | 't' => some '\t'
  | _ => none

/-- The number that the four digits at the start of a text write in base sixteen. -/
def codeUnit? (t : Text) : Option Nat :=
  let digits := t.take 4
  if digits.length = 4 then hexNumber? digits else none

/-- The character after a backslash and a `u`, and how many characters write it: a number in base
sixteen, or two that are surrogates of one character. -/
def unicodeEscape? (t : Text) : Option (Char × Nat) :=
  (codeUnit? t).bind fun n =>
    match t.drop 4 with
    | '\\' :: 'u' :: cs =>
      if Wide.isHighSurrogate n then
        (codeUnit? cs).map fun low =>
          if Wide.isLowSurrogate low then (Wide.pairChar n low, 10) else (Wide.unitChar n, 4)
      else some (Wide.unitChar n, 4)
    | _ => some (Wide.unitChar n, 4)

/-- Reads a text up to its closing quote: the text, and how many characters write it with the quote.
The first `skip` characters belong to an escape already read. -/
def readText : Nat → Text → Option (Text × Nat)
  | _, [] => none
  | skip + 1, _ :: cs => (readText skip cs).map fun r => (r.1, r.2 + 1)
  | 0, c :: cs =>
    if c = '"' then some ([], 1)
    else if c = '\\' then
      match cs with
      | [] => none
      | e :: after =>
        if e = 'u' then
          (unicodeEscape? after).bind fun u =>
            (readText (u.2 + 1) cs).map fun r => (u.1 :: r.1, r.2 + 1)
        else
          (escape? e).bind fun x => (readText 1 cs).map fun r => (x :: r.1, r.2 + 1)
    else if c.toNat < 0x20 then none
    else (readText 0 cs).map fun r => (c :: r.1, r.2 + 1)

/-! ## Numbers -/

def isDigit (c : Char) : Bool :=
  '0' ≤ c && c ≤ '9'

/-- The number that digits write. -/
def number (digits : Text) : Nat :=
  digits.foldl (fun n c => 10 * n + (c.toNat - 48)) 0

/-- The digits of the whole part of a number, which has no needless zero in front. -/
def wholeDigits (t : Text) : Text :=
  match t with
  | '0' :: _ => ['0']
  | _ => t.takeWhile isDigit

def fractionDigits (t : Text) : Text :=
  match t with
  | '.' :: cs => cs.takeWhile isDigit
  | _ => []

/-- An exponent and how many characters write it. -/
def exponent? (t : Text) : Option (Int × Nat) :=
  match t with
  | e :: cs =>
    if e = 'e' ∨ e = 'E' then
      let signed := cs.head? == some '+' || cs.head? == some '-'
      let digits := (if signed then cs.drop 1 else cs).takeWhile isDigit
      if digits.isEmpty then none
      else
        let n : Int := number digits
        some (if cs.head? == some '-' then -n else n, (if signed then 2 else 1) + digits.length)
    else none
  | [] => none

/-- Reads a number, and how many characters write it. -/
def readNumber? (t : Text) : Option (Token × Nat) :=
  let negative := t.head? == some '-'
  let unsigned := if negative then t.drop 1 else t
  let whole := wholeDigits unsigned
  if whole.isEmpty then none
  else
    let fraction := fractionDigits (unsigned.drop whole.length)
    let point := if fraction.isEmpty then 0 else 1
    let before := whole.length + point + fraction.length
    let length := (if negative then 1 else 0) + before
    let units (digits : Text) : Int := if negative then -number digits else number digits
    match exponent? (unsigned.drop before) with
    | some (e, more) =>
      some (scalar (ofDecimal (units (whole ++ fraction)) (e - fraction.length)), length + more)
    | none =>
      if !fraction.isEmpty then
        some (scalar (ofDecimal (units (whole ++ fraction)) (-fraction.length)), length)
      else if digitLimit < whole.length then some (longInteger, length)
      else some (scalar (integer (units whole)), length)

/-! ## All tokens -/

def wordValues : List (Text × Json) :=
  [("null".toList, null), ("true".toList, flag true), ("false".toList, flag false),
    ("NaN".toList, infinite), ("Infinity".toList, infinite), ("-Infinity".toList, infinite)]

def readWord? (t : Text) : Option (Token × Nat) :=
  match wordValues.find? fun e => e.1.isPrefixOf t with
  | some (word, v) => some (scalar v, word.length)
  | none => readNumber? t

def isSpace (c : Char) : Bool :=
  c == ' ' || c == '\t' || c == '\n' || c == '\r'

/-- The token that a single character is. -/
def ofChar? : Char → Option Token
  | '\x7b' => some openBrace
  | '\x7d' => some closeBrace
  | '[' => some openBracket
  | ']' => some closeBracket
  | ':' => some colon
  | ',' => some comma
  | _ => none

/-- The tokens of a text whose first `skip` characters belong to a token already read. -/
def readFrom : Nat → Text → List Token
  | _, [] => []
  | skip + 1, _ :: cs => readFrom skip cs
  | 0, c :: cs =>
    if isSpace c then readFrom 0 cs
    else match ofChar? c with
      | some token => token :: readFrom 0 cs
      | none =>
        if c = '"' then
          match readText 0 cs with
          | some (t, length) => scalar (text t) :: readFrom length cs
          | none => [unreadable]
        else match readWord? (c :: cs) with
          | some (token, length) => token :: readFrom (length - 1) cs
          | none => [unreadable]

def read (t : Text) : List Token :=
  readFrom 0 t

end Token

end Stencil.Service.Json
