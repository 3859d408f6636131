import Stencil.Source.Resolver

/-!
Choices among sources.  A choice asks its members from left to right until one of them has a value,
and a member may be a choice itself.  What one question does to the sources is a round: the silent
ones before the first value are asked, then the one that has it, and nobody after it.
-/
namespace Stencil

/-- Something that is asked for values and may change a state by it.  Its label stands for it in a
log of questions. -/
structure Supplier (ι σ : Type) where
  label : ι
  /-- The value of a name, `null` when there is none. -/
  value : Text → σ → Value × σ

namespace Supplier

variable {ι σ : Type}

/-- Answers with the text form of the value. -/
def resolver (s : Supplier ι σ) : Resolver σ :=
  fun name state => ((s.value name state).1.answer?, (s.value name state).2)

/-- The log entry of a question. -/
def call (name : Text) (s : Supplier ι σ) : ι × Text :=
  (s.label, name)

/-- Answers in the same way and writes every question down. -/
def logged (s : Supplier ι σ) : Resolver (List (ι × Text) × σ) :=
  fun name state =>
    let reply := s.resolver name state.2
    (reply.1, state.1 ++ [s.call name], reply.2)

end Supplier

/-- A source, or a choice among sources and choices. -/
inductive Choice (α : Type)
  | source (a : α)
  | among (members : List (Choice α))

namespace Choice

variable {α τ : Type}

mutual

/-- The sources of a choice from left to right, whatever choices they stand in. -/
def sources : Choice α → List α
  | source a => [a]
  | among members => allSources members

def allSources : List (Choice α) → List α
  | [] => []
  | member :: members => sources member ++ allSources members

end

mutual

/-- The resolver of a choice, given those of its sources. -/
def resolver (ask : α → Resolver τ) : Choice α → Resolver τ
  | source a => ask a
  | among members => .firstOf (resolvers ask members)

def resolvers (ask : α → Resolver τ) : List (Choice α) → List (Resolver τ)
  | [] => []
  | member :: members => resolver ask member :: resolvers ask members

end

/-- One choice inside a choice is replaced by its members. -/
inductive Spliced : Choice α → Choice α → Prop
  | here (before members after : List (Choice α)) :
      Spliced (among (before ++ among members :: after)) (among (before ++ members ++ after))
  | inside {member spliced : Choice α} (before after : List (Choice α)) :
      Spliced member spliced →
      Spliced (among (before ++ member :: after)) (among (before ++ spliced :: after))

end Choice

/-! ## Rounds -/

namespace Supplier

variable {ι σ : Type}

/-- Suppliers that are asked for a name one after the other, and none has a value. -/
inductive Silent (name : Text) : List (Supplier ι σ) → σ → σ → Prop
  | nil (state : σ) : Silent name [] state state
  | cons {s : Supplier ι σ} {others : List (Supplier ι σ)} {before middle after : σ} :
      s.value name before = (.null, middle) →
      Silent name others middle after →
      Silent name (s :: others) before after

/-- What one question to suppliers in order does: who is asked, what is answered, and which state is
left. -/
inductive Round (suppliers : List (Supplier ι σ)) (name : Text) (before : σ) :
    List (Supplier ι σ) → Option Text → σ → Prop
  | answered {silent later : List (Supplier ι σ)} {s : Supplier ι σ} {value : Value}
      {middle after : σ} :
      suppliers = silent ++ s :: later →
      Silent name silent before middle →
      s.value name middle = (value, after) →
      value ≠ .null →
      Round suppliers name before (silent ++ [s]) (some value.toText) after
  | unanswered {after : σ} :
      Silent name suppliers before after →
      Round suppliers name before suppliers none after

/-- Questions one after the other, with the answers and the log of who was asked. -/
inductive Rounds (suppliers : List (Supplier ι σ)) :
    List Text → σ → List (Option Text) → List (ι × Text) → σ → Prop
  | nil (state : σ) : Rounds suppliers [] state [] [] state
  | cons {name : Text} {names : List Text} {before middle after : σ}
      {asked : List (Supplier ι σ)} {answer : Option Text} {answers : List (Option Text)}
      {calls : List (ι × Text)} :
      Round suppliers name before asked answer middle →
      Rounds suppliers names middle answers calls after →
      Rounds suppliers (name :: names) before (answer :: answers)
        (asked.map (call name) ++ calls) after

end Supplier

end Stencil
