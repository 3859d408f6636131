import Stencil.Text.Numeral
import Stencil.Text.Quoted

/-!
Values that a source may hold.  Only their text form enters a template: a text stands for itself,
and inside a list or a record texts are quoted.
-/
namespace Stencil

open Text

inductive Value
  | null
  | text (t : Text)
  | flag (b : Bool)
  | integer (n : Int)
  /-- The number of units of the last of so many decimal places. -/
  | decimal (units : Int) (places : Nat)
  | list (items : List Value)
  | record (fields : List (Text × Value))
  /-- Something to be called, which is not data. -/
  | function
  deriving Repr

namespace Value

/-- Digits of a fraction without the zeros at their end, but never without any digit. -/
def fractionDigits (digits : Text) : Text :=
  match (digits.reverse.dropWhile (· == '0')).reverse with
  | [] => ['0']
  | ds => ds

/-- A decimal number in positional notation, with at least one place. -/
def decimalText (units : Int) (places : Nat) : Text :=
  let n := units.natAbs
  let low := ofNat (n % Nat.pow 10 places)
  let sign := if units < 0 then ['-'] else []
  sign ++ ofNat (n / Nat.pow 10 places) ++ '.' ::
    fractionDigits (List.replicate (places - low.length) '0' ++ low)

mutual

/-- The form of a value inside another one. -/
def shown : Value → Text
  | null => "None".toList
  | text t => quoted t
  | flag true => "True".toList
  | flag false => "False".toList
  | integer n => ofInt n
  | decimal units places => decimalText units places
  | list items => '[' :: ", ".toList.intercalate (shownItems items) ++ [']']
  | record fields => '{' :: ", ".toList.intercalate (shownFields fields) ++ ['}']
  | function => "<function>".toList

def shownItems : List Value → List Text
  | [] => []
  | v :: vs => shown v :: shownItems vs

def shownFields : List (Text × Value) → List Text
  | [] => []
  | (key, v) :: fields => (quoted key ++ ": ".toList ++ shown v) :: shownFields fields

end

def toText : Value → Text
  | text t => t
  | v => shown v

/-- What a source answers with a value: nothing when there is none, its text form otherwise. -/
def answer? : Value → Option Text
  | null => none
  | v => some v.toText

end Value

end Stencil
