/-!
Numbers in double precision.  Every finite one is a whole multiple of the smallest positive one, two
to the power of -1074, and is kept as that multiple.  It has at most 53 significant bits; of the two
next to a number the nearer one is taken, and halfway between them the even one.
-/
namespace Stencil.Service

/-- How many of the smallest positive numbers of double precision make up one. -/
def finestUnits : Nat := Nat.pow 2 1074

/-- The integer next to a quotient, and halfway the even one. -/
def roundQuotient (n d : Nat) : Nat :=
  let floor := n / d
  let rest := n % d
  if d < 2 * rest ∨ (d = 2 * rest ∧ floor % 2 = 1) then floor + 1 else floor

/-- The integer of at most 53 significant bits next to a quotient. -/
def roundSignificant (n d : Nat) : Nat :=
  let step := Nat.pow 2 ((n / d).log2 + 1 - 53)
  roundQuotient n (d * step) * step

/-- A natural number times a power of ten in double precision, unless it is too large. -/
def nearestMagnitude? (units : Nat) (exponent : Int) : Option Nat :=
  let places : Int := (Nat.toDigits 10 units).length + exponent
  if units = 0 ∨ places < -330 then some 0
  else if 310 < places then none
  else
    let multiple := roundSignificant (units * finestUnits * Nat.pow 10 exponent.toNat)
      (Nat.pow 10 (-exponent).toNat)
    if multiple < Nat.pow 2 1024 * finestUnits then some multiple else none

/-- An integer times a power of ten in double precision, unless it is too large. -/
def nearestDouble? (units exponent : Int) : Option Int :=
  (nearestMagnitude? units.natAbs exponent).map fun n => if units < 0 then -n else n

end Stencil.Service
