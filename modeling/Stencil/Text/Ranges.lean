import Stencil.Text.Basic

/-!
Sets of character numbers, given by the first and the last number of each run.  The tables of
characters in this library follow Unicode 14.
-/
namespace Stencil.Text

/-- The first and the last number of each run, in rising order. -/
abbrev Ranges := List (Nat × Nat)

/-- A number is in the set when one of the runs holds it. -/
def Ranges.covers (ranges : Ranges) (n : Nat) : Bool :=
  ranges.any fun r => r.1 ≤ n && n ≤ r.2

end Stencil.Text
