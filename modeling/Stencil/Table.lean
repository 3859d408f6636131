import Stencil.Text.Basic

/-!
Tables: entries under distinct names that keep the order in which the names were first entered.
-/
namespace Stencil

/-- Entries under names, in order. -/
abbrev Table (α : Type) := List (Text × α)

namespace Table

variable {α : Type}

/-- Puts an entry under a name: in the place of the one already there, or at the end. -/
def put (name : Text) (entry : α) : Table α → Table α
  | [] => [(name, entry)]
  | (other, old) :: rest =>
    if other = name then (name, entry) :: rest else (other, old) :: put name entry rest

def get? (t : Table α) (name : Text) : Option α :=
  (t.find? fun e => e.1 == name).map Prod.snd

def names (t : Table α) : List Text :=
  t.map Prod.fst

def has (t : Table α) (name : Text) : Bool :=
  t.names.contains name

/-- The table of a list of entries: a repeated name keeps its first place and its last entry. -/
def ofPairs (pairs : List (Text × α)) : Table α :=
  pairs.foldl (fun t e => put e.1 e.2 t) []

/-- The table with these names, in order. -/
def tabulate (names : List Text) (entry : Text → α) : Table α :=
  names.map fun name => (name, entry name)

end Table

end Stencil
