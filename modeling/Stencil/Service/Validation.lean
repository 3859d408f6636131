import Stencil.Block.Edge
import Stencil.Service.Json

/-!
Validation of request bodies.  All problems of a body are reported together, each with its kind and
with the way to the value at fault.
-/
namespace Stencil.Service

inductive ProblemKind
  /-- The body is no JSON. -/
  | jsonInvalid
  | missing
  | notObject
  | notText
  | notTable
  /-- The text is not one of the names to choose from. -/
  | notChoice
  /-- The value says neither yes nor no. -/
  | unclearFlag
  | notFlag
  deriving DecidableEq, Repr

def ProblemKind.name : ProblemKind → Text
  | jsonInvalid => "json_invalid".toList
  | missing => "missing".toList
  | notObject => "model_attributes_type".toList
  | notText => "string_type".toList
  | notTable => "dict_type".toList
  | notChoice => "enum".toList
  | unclearFlag => "bool_parsing".toList
  | notFlag => "bool_type".toList

/-- A problem, the way to the value at fault, and the value that shows it. -/
structure Problem where
  kind : ProblemKind
  location : List Text
  input : Json
  deriving Repr

/-- A checked value, or all its problems. -/
abbrev Checked (α : Type) := Except (List Problem) α

namespace Checked

variable {α β : Type}

/-- Two values, with the problems of both. -/
def and : Checked α → Checked β → Checked (α × β)
  | .ok a, .ok b => .ok (a, b)
  | .error p, .error q => .error (p ++ q)
  | .error p, .ok _ => .error p
  | .ok _, .error q => .error q

def problem (kind : ProblemKind) (location : List Text) (input : Json) : Checked α :=
  .error [⟨kind, location, input⟩]

def entries (check : Text → Json → Checked α) : List (Text × Json) → Checked (List (Text × α))
  | [] => .ok []
  | (name, v) :: rest =>
    ((check name v).and (entries check rest)).map fun r => (name, r.1) :: r.2

end Checked

/-! ## Kinds of values -/

/-- A way to check a value at a location. -/
abbrev Check (α : Type) := List Text → Json → Checked α

def text : Check Text
  | _, .text t => .ok t
  | location, v => .problem .notText location v

def optionalText : Check (Option Text)
  | _, .null => .ok none
  | location, v => (text location v).map some

def edgeMode : Check Block.EdgeMode
  | location, .text t =>
    match Block.EdgeMode.ofName t with
    | .ok mode => .ok mode
    | .error _ => .problem .notChoice location (.text t)
  | location, v => .problem .notChoice location v

/-- A table of texts, some of which may be null. -/
def textTable : Check (Table (Option Text))
  | location, .object members =>
    Checked.entries (fun name v => optionalText (location ++ [name]) v) members
  | location, v => .problem .notTable location v

/-- The texts that say yes, in letters of any case. -/
def yesWords : List Text :=
  ["1", "on", "t", "true", "y", "yes"].map String.toList

/-- The texts that say no, in letters of any case. -/
def noWords : List Text :=
  ["0", "off", "f", "false", "n", "no"].map String.toList

def wholeFlag? (n : Int) : Option Bool :=
  if n = 0 then some false
  else if n = 1 then some true
  else none

/-- A flag: a truth value, zero or one, or a text that says yes or no.  Other texts and other
integers of 64 bits are unclear.  A number in double precision counts as an integer when it is whole
and lies strictly between the ends of these. -/
def flag : Check Bool
  | _, .flag b => .ok b
  | location, .integer n =>
    match wholeFlag? n with
    | some b => .ok b
    | none =>
      if -Int.pow 2 63 ≤ n ∧ n < Int.pow 2 63 then .problem .unclearFlag location (.integer n)
      else .problem .notFlag location (.integer n)
  | location, .real multiple =>
    let n := multiple / finestUnits
    if multiple % finestUnits ≠ 0 ∨ n ≤ -Int.pow 2 63 ∨ Int.pow 2 63 ≤ n then
      .problem .notFlag location (.real multiple)
    else match wholeFlag? n with
      | some b => .ok b
      | none => .problem .unclearFlag location (.real multiple)
  | location, .text t =>
    let word := t.map Char.toLower
    if yesWords.contains word then .ok true
    else if noWords.contains word then .ok false
    else .problem .unclearFlag location (.text t)
  | location, v => .problem .notFlag location v

/-! ## Members of a body -/

def bodyLocation : List Text :=
  ["body".toList]

def required {α : Type} (check : Check α) (body : Table Json) (name : String) : Checked α :=
  let location := bodyLocation ++ [name.toList]
  match body.get? name.toList with
  | some v => check location v
  | none => .problem .missing location (.object body)

def optional {α : Type} (check : Check α) (default : α) (body : Table Json) (name : String) :
    Checked α :=
  match body.get? name.toList with
  | some v => check (bodyLocation ++ [name.toList]) v
  | none => .ok default

end Stencil.Service
