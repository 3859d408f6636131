import Stencil.Source.Resolver
import Stencil.Text.Case

/-!
Objects as sources.  Only public data is found: the attributes of the object itself and the
properties of its class and of the classes above it, searched in this order.  Names that start with
an underscore and reserved names, which every data model carries, are not data, nor is anything to
be called.  A plain attribute of the class adds no name; it only hides an inherited property of the
same name.
-/
namespace Stencil

open Text

/-- An object with the members that its names may stand for. -/
structure Record where
  /-- Attributes of the object itself, or fields of a model. -/
  attributes : Table Value
  /-- Properties of the class of the object. -/
  properties : Table Value
  /-- Properties of the classes above it. -/
  inherited : Table Value
  /-- Plain attributes of the class. -/
  classAttributes : Table Value

namespace Record

/-- A name that data may have. -/
def isPublic (reserved : List Text) (name : Text) : Bool :=
  name.head? != some '_' && !reserved.contains name

/-- The names of the public members in the order in which they are searched. -/
def members (r : Record) (reserved : List Text) : List Text :=
  ((r.attributes ++ r.properties ++ r.inherited).map Prod.fst).filter (isPublic reserved)

/-- The member that a name stands for: the one of just this name, or, when case is ignored, the
first one whose name has the same small letters. -/
def member? (r : Record) (reserved : List Text) (ignoreCase : Bool) (name : Text) : Option Text :=
  if name.isEmpty || name.head? == some '_' then none
  else if (r.members reserved).contains name then some name
  else if ignoreCase then (r.members reserved).find? fun m => lower m == lower name
  else none

/-- What the object has under a name.  A property goes before an attribute of the object; an
inherited one that a plain attribute of the class hides does not count, and then this attribute
stands in for an attribute of the object. -/
def value? (r : Record) (name : Text) : Option Value :=
  match r.properties.get? name with
  | some v => some v
  | none =>
    match r.classAttributes.get? name, r.inherited.get? name with
    | none, some v => some v
    | plain, _ => (r.attributes.get? name).or plain

/-- The value of the member that a name stands for; the search ends at a member without one. -/
def find? (r : Record) (reserved : List Text) (ignoreCase : Bool) (name : Text) : Option Value :=
  match (r.member? reserved ignoreCase name).bind r.value? with
  | none | some .null | some .function => none
  | some v => some v

/-- Answers with the public data of an object. -/
def resolver {σ : Type} (r : Record) (reserved : List Text) (ignoreCase : Bool) : Resolver σ :=
  .pure fun name => (r.find? reserved ignoreCase name).bind Value.answer?

end Record

end Stencil
