import Stencil.Text.Blank

/-!
Lines of a settings file.  A line is blank or a remark, names a section, or sets a key.  A key, a
value, a name and a remark stay on one line: none of them holds a line feed, though blank characters
around them may.
-/
namespace Stencil.Settings

open Text

/-- What a line of a settings file says. -/
inductive Line
  /-- Nothing, or a remark. -/
  | remark
  /-- The keys that follow belong to this section. -/
  | header (name : Text)
  /-- A key with its value, or a bare key. -/
  | entry (key : Text) (value : Option Text)
  deriving DecidableEq, Repr

namespace Line

def single (t : Text) : Bool :=
  !t.contains '\n'

/-- A trimmed line that is empty, or a remark after `#` or `;`. -/
def isRemark (t : Text) : Bool :=
  match t with
  | [] => true
  | c :: _ => (c == '#' || c == ';') && single t

def header? (t : Text) : Option Text :=
  match t with
  | '[' :: cs =>
    match (trimEnd cs).reverse with
    | ']' :: inside =>
      let name := trim inside.reverse
      if single name then some name else none
    | _ => none
  | _ => none

/-- What may stand after a key: nothing, or an equals sign and a value. -/
def valueAfterKey? (t : Text) : Option (Option Text) :=
  match trimStart t with
  | [] => some none
  | c :: cs =>
    if c = '=' ∧ single (trim cs) then some (some (trim cs)) else none

/-- Ends the key, whose last characters come first, at the first place where what follows is the
rest of an entry. -/
def entryFrom? (key : Text) (t : Text) : Option Line :=
  match valueAfterKey? t with
  | some value => some (.entry key.reverse value)
  | none =>
    match t with
    | [] => none
    | c :: cs => if c = '\n' then none else entryFrom? (c :: key) cs

/-- Reads a line; nothing when it is none of the three. -/
def read? (line : Text) : Option Line :=
  let t := trimStart line
  if isRemark t then some .remark
  else match header? t with
    | some name => some (.header name)
    | none => entryFrom? [] t

end Line

end Stencil.Settings
