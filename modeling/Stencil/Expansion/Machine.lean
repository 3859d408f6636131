import Stencil.Expansion.Align
import Stencil.Expansion.Rank
import Stencil.Placeholder.Template
import Stencil.Source.Resolver

/-!
The expansion machine.  A text under expansion is a frame, and a value met in it is expanded in a
frame on top before it is inserted.  A text at the depth limit is not searched for placeholders, so
every expansion ends: `step` makes the rank of a well placed stack smaller.  The machine works with
any limit, and `expand` sets it to `depthLimit`.
-/
namespace Stencil.Expansion

open Placeholder

/-- How deep values are expanded.  It ends the expansion of names that refer to themselves. -/
def depthLimit : Nat := 1024

/-- A text under expansion at some depth. -/
structure Frame where
  depth : Nat
  /-- The part of the text already passed, last character first. -/
  passed : Text
  /-- The expanded pieces of that part, last piece first. -/
  pieces : List Text
  /-- The part still to be passed, cut at its placeholders. -/
  left : Template
  /-- The name whose value is being expanded in the frame above. -/
  pending : Option Text
  deriving DecidableEq, Repr

namespace Frame

def start (limit : Nat) (text : Text) (depth : Nat) : Frame :=
  ⟨depth, [], [], if depth < limit then Template.scan text else ⟨[], text⟩, none⟩

def lead (f : Frame) : Text :=
  leadOf f.passed

def passLiteral (f : Frame) (literal : Text) : Frame :=
  { f with passed := literal.reverse ++ f.passed, pieces := literal :: f.pieces }

def passName (f : Frame) (name insert : Text) : Frame :=
  { f with
    passed := (wrap name).reverse ++ f.passed
    pieces := insert :: f.pieces
    pending := none }

/-- Goes on to the next placeholder that is answered, and gives that answer.  Placeholders that are
not answered stay as they are. -/
def advance {σ : Type} (ask : Resolver σ) :
    List Cut → Frame → σ → Option Text × Frame × σ
  | [], f, state => (none, { f with left := ⟨[], f.left.rest⟩ }, state)
  | cut :: cuts, f, state =>
    let f := f.passLiteral cut.literal
    match ask cut.name state with
    | (none, state) => advance ask cuts (f.passName cut.name (wrap cut.name)) state
    | (some value, state) =>
      (some value, { f with left := ⟨cuts, f.left.rest⟩, pending := some cut.name }, state)

def accept (f : Frame) (expanded : Text) : Frame :=
  match f.pending with
  | some name => f.passName name (align expanded f.lead)
  | none => f

/-- The expanded text, when no placeholder is left. -/
def finish (f : Frame) : Text :=
  f.pieces.reverse.flatten ++ f.left.rest

end Frame

/-! ## Steps -/

/-- A stack of frames, the top first, with the state of the resolver. -/
structure Machine (σ : Type) where
  frames : List Frame
  state : σ

namespace Machine

variable {σ : Type}

def start (limit : Nat) (text : Text) (state : σ) : Machine σ :=
  ⟨[Frame.start limit text 0], state⟩

/-- One step: either the top frame meets an answer, which gets a frame of its own, or it is finished
and its text goes to the frame below.  The text of the last frame is the result. -/
def step (limit : Nat) (ask : Resolver σ) (m : Machine σ) : Machine σ ⊕ (Text × σ) :=
  match m.frames with
  | [] => .inr ([], m.state)
  | top :: below =>
    match top.advance ask top.left.cuts m.state with
    | (some value, top, state) =>
      .inl ⟨Frame.start limit value (top.depth + 1) :: top :: below, state⟩
    | (none, top, state) =>
      match below with
      | [] => .inr (top.finish, state)
      | next :: others => .inl ⟨next.accept top.finish :: others, state⟩

/-- The two ways in which a step goes on. -/
inductive Moves (limit : Nat) (ask : Resolver σ) : Machine σ → Machine σ → Prop
  /-- The top frame meets an answer. -/
  | push {top passed : Frame} {below : List Frame} {state after : σ} {value : Text} :
      top.advance ask top.left.cuts state = (some value, passed, after) →
      Moves limit ask ⟨top :: below, state⟩
        ⟨Frame.start limit value (passed.depth + 1) :: passed :: below, after⟩
  /-- The top frame is finished, and another one waits for its text. -/
  | pop {top passed next : Frame} {below : List Frame} {state after : σ} :
      top.advance ask top.left.cuts state = (none, passed, after) →
      Moves limit ask ⟨top :: next :: below, state⟩ ⟨next.accept passed.finish :: below, after⟩

/-- Every frame is as deep as its place in the stack, no frame is beyond the depth limit, and one at
the limit holds no placeholder. -/
def Placed (limit : Nat) : List Frame → Prop
  | [] => True
  | f :: below =>
    (f.depth = below.length ∧ f.depth ≤ limit ∧ (f.depth = limit → f.left.cuts = [])) ∧
      Placed limit below

/-- The work left in each frame, bottom first. -/
def work (frames : List Frame) : List Nat :=
  (frames.map fun f => f.left.cuts.length).reverse

def rank (limit : Nat) (m : Machine σ) : Rank (limit + 1) :=
  Rank.ofList (limit + 1) (work m.frames)

end Machine

/-! ## Why it ends -/

namespace Frame

variable {σ : Type}

/-- How a frame passes cuts: a placeholder that is not answered is kept, up to the first one that
is answered. -/
inductive Passes (ask : Resolver σ) : List Cut → Frame → σ → Option Text × Frame × σ → Prop
  | nil (f : Frame) (state : σ) :
      Passes ask [] f state (none, { f with left := ⟨[], f.left.rest⟩ }, state)
  | keep {cut : Cut} {cuts : List Cut} {f : Frame} {state after : σ}
      {outcome : Option Text × Frame × σ} :
      ask cut.name state = (none, after) →
      Passes ask cuts ((f.passLiteral cut.literal).passName cut.name (wrap cut.name)) after outcome →
      Passes ask (cut :: cuts) f state outcome
  | meet {cut : Cut} (cuts : List Cut) (f : Frame) {state after : σ} {value : Text} :
      ask cut.name state = (some value, after) →
      Passes ask (cut :: cuts) f state
        (some value,
          { f.passLiteral cut.literal with
            left := ⟨cuts, f.left.rest⟩
            pending := some cut.name },
          after)

theorem passes_advance
    (ask : Resolver σ)
    (cuts : List Cut)
    (f : Frame)
    (state : σ) :
    Passes ask cuts f state (f.advance ask cuts state) := by
  induction cuts generalizing f state with
  | nil => exact .nil f state
  | cons cut cuts ih =>
      rcases answer : ask cut.name state with ⟨_ | value, after⟩
      · simpa [advance, answer] using Passes.keep answer (ih _ after)
      · simpa [advance, answer, passLiteral] using Passes.meet cuts f answer

theorem passes_of_advance
    {ask : Resolver σ}
    {cuts : List Cut}
    {f : Frame}
    {state : σ}
    {outcome : Option Text × Frame × σ}
    (advanced : f.advance ask cuts state = outcome) :
    Passes ask cuts f state outcome :=
  advanced ▸ passes_advance ask cuts f state

section Passes

variable {ask : Resolver σ} {cuts : List Cut} {f : Frame} {state : σ}
  {outcome : Option Text × Frame × σ}

theorem Passes.depth_eq (passes : Passes ask cuts f state outcome) :
    outcome.2.1.depth = f.depth := by
  induction passes with
  | nil => rfl
  | keep _ _ ih => exact ih
  | meet => rfl

theorem Passes.length_cuts_lt
    (passes : Passes ask cuts f state outcome)
    (answered : outcome.1.isSome) :
    outcome.2.1.left.cuts.length < cuts.length := by
  induction passes with
  | nil => cases answered
  | keep _ _ ih => exact Nat.lt_succ_of_lt (ih answered)
  | meet cuts => exact Nat.lt_succ_self cuts.length

end Passes

@[simp]
theorem depth_accept (f : Frame) (expanded : Text) : (f.accept expanded).depth = f.depth := by
  unfold accept; split <;> rfl

@[simp]
theorem left_accept (f : Frame) (expanded : Text) : (f.accept expanded).left = f.left := by
  unfold accept; split <;> rfl

theorem cuts_start_of_limit
    (text : Text)
    {limit depth : Nat}
    (deep : limit ≤ depth) :
    (start limit text depth).left.cuts = [] := by
  simp [start, Nat.not_lt.2 deep]

end Frame

namespace Machine

variable {σ : Type} {limit : Nat}

theorem moves_of_step
    (ask : Resolver σ)
    {m next : Machine σ}
    (stepped : m.step limit ask = .inl next) :
    Moves limit ask m next := by
  obtain ⟨frames, state⟩ := m
  cases frames with
  | nil => cases stepped
  | cons top below =>
      simp only [step] at stepped
      split at stepped
      · next value passed after advanced =>
          cases stepped
          exact .push advanced
      · next passed after advanced =>
          cases below with
          | nil => cases stepped
          | cons lower others =>
              cases stepped
              exact .pop advanced

theorem placed_start (text : Text) (state : σ) :
    Placed limit (start limit text state).frames :=
  ⟨⟨rfl, Nat.zero_le _, fun deep => Frame.cuts_start_of_limit text (Nat.le_of_eq deep.symm)⟩,
    trivial⟩

/-- A frame that still holds placeholders is above the depth limit. -/
theorem depth_lt_of_cuts
    {f : Frame}
    {below : List Frame}
    (placed : Placed limit (f :: below))
    (more : f.left.cuts ≠ []) :
    f.depth < limit :=
  Nat.lt_of_le_of_ne placed.1.2.1 fun deep => more (placed.1.2.2 deep)

theorem placed_accept
    {f : Frame}
    {below : List Frame}
    (placed : Placed limit (f :: below))
    (expanded : Text) :
    Placed limit (f.accept expanded :: below) := by
  simpa [Placed] using placed

theorem placed_push
    {ask : Resolver σ}
    {top passed : Frame}
    {below : List Frame}
    {state after : σ}
    {value : Text}
    (placed : Placed limit (top :: below))
    (passes : Frame.Passes ask top.left.cuts top state (some value, passed, after)) :
    Placed limit (Frame.start limit value (passed.depth + 1) :: passed :: below) := by
  have shorter := passes.length_cuts_lt rfl
  have above : top.depth < limit :=
    depth_lt_of_cuts placed fun none_left => by simp [none_left] at shorter
  have same : passed.depth = top.depth := passes.depth_eq
  refine ⟨⟨?_, ?_, ?_⟩, ⟨?_, ?_, ?_⟩, placed.2⟩
  · simp [Frame.start, same, placed.1.1]
  · simpa [Frame.start, same] using Nat.succ_le_of_lt above
  · intro deep
    exact Frame.cuts_start_of_limit value (Nat.le_of_eq deep.symm)
  · rw [same]; exact placed.1.1
  · rw [same]; exact placed.1.2.1
  · rw [same]; exact fun deep => absurd deep (Nat.ne_of_lt above)

theorem work_cons (f : Frame) (below : List Frame) :
    work (f :: below) = work below ++ [f.left.cuts.length] := by
  simp [work]

theorem length_work (frames : List Frame) : (work frames).length = frames.length := by
  simp [work]

theorem placed_step
    (ask : Resolver σ)
    {m next : Machine σ}
    (placed : Placed limit m.frames)
    (stepped : m.step limit ask = .inl next) :
    Placed limit next.frames := by
  cases moves_of_step ask stepped with
  | push advanced => exact placed_push placed (Frame.passes_of_advance advanced)
  | pop advanced => exact placed_accept placed.2 _

/-- A step makes the rank of a well placed stack smaller. -/
theorem rank_step_less
    (ask : Resolver σ)
    {m next : Machine σ}
    (placed : Placed limit m.frames)
    (stepped : m.step limit ask = .inl next) :
    Rank.Less (limit + 1) (next.rank limit) (m.rank limit) := by
  cases moves_of_step ask stepped with
  | @push top passed below state after value advanced =>
      have shorter : passed.left.cuts.length < top.left.cuts.length :=
        (Frame.passes_of_advance advanced).length_cuts_lt rfl
      unfold rank
      rw [work_cons, work_cons, work_cons, List.append_assoc]
      refine Rank.less_push (work below) _ shorter ?_
      rw [length_work, ← placed.1.1]
      exact Nat.lt_succ_of_le placed.1.2.1
  | @pop top passed lower below state after advanced =>
      unfold rank
      rw [work_cons top]
      simp only [work_cons, Frame.left_accept]
      refine Rank.less_pop _ _ ?_
      rw [List.length_append, length_work]
      exact Nat.lt_succ_of_le (by simpa [placed.1.1] using placed.1.2.1)

/-- Steps until the text of the last frame is expanded. -/
def run (limit : Nat) (ask : Resolver σ) (m : Machine σ) (placed : Placed limit m.frames) :
    Text × σ :=
  match stepped : m.step limit ask with
  | .inl next => run limit ask next (placed_step ask placed stepped)
  | .inr result => result
  termination_by m.rank limit
  decreasing_by exact rank_step_less ask placed stepped

end Machine

/-- Expands the placeholders of a text, and those of the values put in their places, down to a depth
limit. -/
def expandWithin {σ : Type} (limit : Nat) (ask : Resolver σ) (template : Text) (state : σ) :
    Text × σ :=
  (Machine.start limit template state).run limit ask (Machine.placed_start template state)

/-- Expands the placeholders of a text, and those of the values put in their places. -/
def expand {σ : Type} (ask : Resolver σ) (template : Text) (state : σ) : Text × σ :=
  expandWithin depthLimit ask template state

def asked {σ : Type} (ask : Resolver σ) (template : Text) (state : σ) : List Text :=
  (expand ask.logged template ([], state)).2.1

end Stencil.Expansion
