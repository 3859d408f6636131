import Stencil.Table
import Stencil.Value

/-!
Resolvers: what a template asks for the text of a name.  A resolver may have a state, which every
question may read and change, so a question is a step of that state.
-/
namespace Stencil

/-- Answers a name with its text, or with nothing when it does not know the name. -/
abbrev Resolver (σ : Type) := Text → σ → Option Text × σ

namespace Resolver

variable {σ : Type}

/-- A resolver without a state of its own. -/
def pure (answer : Text → Option Text) : Resolver σ :=
  fun name state => (answer name, state)

/-- Asks the resolvers of a list from left to right until one of them answers. -/
def firstOf : List (Resolver σ) → Resolver σ
  | [], _, state => (none, state)
  | ask :: others, name, state =>
    match ask name state with
    | (some answer, state) => (some answer, state)
    | (none, state) => firstOf others name state

/-- The answers to names that are asked one after the other, and the state after them. -/
def answers (ask : Resolver σ) : List Text → σ → List (Option Text) × σ
  | [], state => ([], state)
  | name :: names, state =>
    let reply := ask name state
    let later := answers ask names reply.2
    (reply.1 :: later.1, later.2)

/-- Writes down the names that it is asked, in order. -/
def logged (ask : Resolver σ) : Resolver (List Text × σ) :=
  fun name state =>
    let reply := ask name state.2
    (reply.1, state.1 ++ [name], reply.2)

/-- Looks names up in a table, letter by letter. -/
def ofTable (table : Table Value) : Resolver σ :=
  pure fun name => (table.get? name).bind Value.answer?

def ofTexts (table : Table Text) : Resolver σ :=
  pure table.get?

/-- Looks names up in a table of texts, some of which are missing. -/
def ofOptions (table : Table (Option Text)) : Resolver σ :=
  pure fun name => (table.get? name).join

end Resolver

end Stencil
