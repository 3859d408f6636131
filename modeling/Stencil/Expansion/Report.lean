import Stencil.Expansion.Machine

/-!
Reports: the expansion of a template together with the names that were answered and those that were
not, at any depth, each once and in the order in which it first was.
-/
namespace Stencil.Expansion

open Placeholder

/-- The names asked so far, by whether they were answered. -/
structure Tally where
  resolved : List Text
  unresolved : List Text
  deriving DecidableEq, Repr

def Tally.count (t : Tally) (name : Text) (answered : Bool) : Tally :=
  if answered then { t with resolved := addName t.resolved name }
  else { t with unresolved := addName t.unresolved name }

def tallied {σ : Type} (ask : Resolver σ) : Resolver (Tally × σ) :=
  fun name state =>
    let (answer, inner) := ask name state.2
    (answer, state.1.count name answer.isSome, inner)

structure Report where
  template : Text
  expanded : Text
  resolved : List Text
  unresolved : List Text
  deriving DecidableEq, Repr

/-- Every name was answered whenever it was asked. -/
def Report.complete (r : Report) : Bool :=
  r.unresolved.isEmpty

def report {σ : Type} (ask : Resolver σ) (template : Text) (state : σ) : Report × σ :=
  let (expanded, tally, state) := expand (tallied ask) template (⟨[], []⟩, state)
  (⟨template, expanded, tally.resolved, tally.unresolved⟩, state)

end Stencil.Expansion
