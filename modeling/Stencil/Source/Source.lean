import Stencil.Expansion.Report
import Stencil.Settings.File
import Stencil.Source.Record

/-!
Sources of the values of a template: a resolver, a table, a settings section, the groups of a
pattern match, or an object.
-/
namespace Stencil

inductive Source (σ : Type)
  /-- A resolver answers for itself. -/
  | function (ask : Resolver σ)
  | table (entries : Table Value)
  | settings (s : Settings.Section)
  /-- The named groups of a pattern match, with nothing for a group that took no part. -/
  | groups (named : Table (Option Text))
  /-- An object, and the names that are reserved. -/
  | object (r : Record) (reserved : List Text)

namespace Source

variable {σ : Type}

/-- The resolver that answers from a source.  Case can be ignored for objects only. -/
def resolver (ignoreCase : Bool) : Source σ → Resolver σ
  | function ask => ask
  | table entries => .ofTable entries
  | settings s => .ofOptions s.entries
  | groups named => .ofOptions named
  | object r reserved => r.resolver reserved ignoreCase

def expand (source : Source σ) (ignoreCase : Bool) (template : Text) (state : σ) : Text × σ :=
  Expansion.expand (source.resolver ignoreCase) template state

end Source

end Stencil
