import Stencil.Service.Double
import Stencil.Table

/-!
JSON values.  A number written with a fraction or an exponent is kept in double precision, another
one as it is.  The members of an object have distinct names, and a repeated name keeps its last
value.
-/
namespace Stencil.Service

inductive Json
  | null
  | flag (b : Bool)
  | integer (n : Int)
  /-- A number in double precision, as a multiple of the smallest positive one. -/
  | real (multiple : Int)
  | infinite
  | text (t : Text)
  | array (items : List Json)
  | object (members : List (Text × Json))
  deriving Repr

namespace Json

/-- An integer times a power of ten, in double precision. -/
def ofDecimal (units exponent : Int) : Json :=
  match nearestDouble? units exponent with
  | some multiple => real multiple
  | none => infinite

mutual

/-- All numbers in a value are finite. -/
def isFinite : Json → Bool
  | infinite => false
  | array items => areFinite items
  | object members => membersAreFinite members
  | _ => true

def areFinite : List Json → Bool
  | [] => true
  | v :: vs => v.isFinite && areFinite vs

def membersAreFinite : List (Text × Json) → Bool
  | [] => true
  | (_, v) :: members => v.isFinite && membersAreFinite members

end

end Json

end Stencil.Service
