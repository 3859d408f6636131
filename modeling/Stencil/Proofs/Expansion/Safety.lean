import Stencil.Proofs.Expansion.Refinement

/-!
The expansion machine ends and nothing stops it on the way.  `tryStep` is a step that checks what it
relies on: there is a top frame, a frame that takes a text waits for one, and what is put in braces
is a name.  The stacks of a run keep an invariant under which these checks pass, so a run of checked
steps is the run of the machine.
-/
namespace Stencil.Expansion

open Placeholder

variable {σ : Type}

/-- What can stop a step. -/
inductive Fault
  | noFrame
  /-- A text comes to a frame that has passed nothing yet. -/
  | notBegun
  /-- A text comes to a frame that waits for none. -/
  | notWaiting
  | invalidName (e : InvalidName)

namespace Frame

/-- `advance` with the placeholders that are not answered written anew. -/
def tryAdvance (ask : Resolver σ) : List Cut → Frame → σ → Except Fault (Option Text × Frame × σ)
  | [], f, state => .ok (none, { f with left := ⟨[], f.left.rest⟩ }, state)
  | cut :: cuts, f, state =>
    let f := f.passLiteral cut.literal
    match ask cut.name state with
    | (none, state) =>
      match format cut.name with
      | .ok verbatim => tryAdvance ask cuts (f.passName cut.name verbatim) state
      | .error e => .error (.invalidName e)
    | (some value, state) =>
      .ok (some value, { f with left := ⟨cuts, f.left.rest⟩, pending := some cut.name }, state)

/-- `accept` for a frame that may not be ready. -/
def tryAccept (f : Frame) (expanded : Text) : Except Fault Frame :=
  if f.pieces = [] then .error .notBegun
  else
    match f.pending with
    | some name => .ok (f.passName name (align expanded f.lead))
    | none => .error .notWaiting

end Frame

namespace Machine

/-- `step` with its checks. -/
def tryStep (limit : Nat) (ask : Resolver σ) (m : Machine σ) :
    Except Fault (Machine σ ⊕ (Text × σ)) :=
  match m.frames with
  | [] => .error .noFrame
  | top :: below =>
    match top.tryAdvance ask top.left.cuts m.state with
    | .error fault => .error fault
    | .ok (some value, top, state) =>
      .ok (.inl ⟨Frame.start limit value (top.depth + 1) :: top :: below, state⟩)
    | .ok (none, top, state) =>
      match below with
      | [] => .ok (.inr (top.finish, state))
      | next :: others =>
        match next.tryAccept top.finish with
        | .error fault => .error fault
        | .ok next => .ok (.inl ⟨next :: others, state⟩)

/-- What checked steps come to, so many of them at most. -/
def after (limit : Nat) (ask : Resolver σ) :
    Nat → Machine σ ⊕ (Text × σ) → Except Fault (Machine σ ⊕ (Text × σ))
  | 0, now => .ok now
  | _ + 1, .inr result => .ok (.inr result)
  | count + 1, .inl m =>
    match m.tryStep limit ask with
    | .error fault => .error fault
    | .ok next => after limit ask count next

/-- The names that the next step asks. -/
def asks (limit : Nat) (ask : Resolver σ) (m : Machine σ) : List Text :=
  match step limit ask.logged ⟨m.frames, ([], m.state)⟩ with
  | .inl next => next.state.1
  | .inr result => result.2.1

/-- What holds of a machine under way: there are frames, at most one for each depth up to the limit,
in the order of their depths; the top frame waits for nothing and every other frame for a text; and
only names are asked, by a frame above the limit. -/
structure Orderly (limit : Nat) (ask : Resolver σ) (m : Machine σ) : Prop where
  nonempty : m.frames ≠ []
  height : m.frames.length ≤ limit + 1
  depth : ∀ (place : Nat) (f : Frame), m.frames.reverse[place]? = some f → f.depth = place
  topIdle : ∀ f ∈ m.frames.head?, f.pending = none
  belowWaiting : ∀ f ∈ m.frames.tail, f.pending.isSome
  names : ∀ name ∈ m.asks limit ask, isName name
  askedAbove : m.asks limit ask ≠ [] → ∀ f ∈ m.frames.head?, f.depth < limit

end Machine

/-! ## The invariant -/

namespace Frame

/-- A frame in which a value is to be inserted. -/
structure Waiting (f : Frame) : Prop where
  begun : f.pieces ≠ []
  pending : f.pending.isSome

/-- A frame whose cuts hold names. -/
def Named (f : Frame) : Prop :=
  ∀ cut ∈ f.left.cuts, isName cut.name

theorem named_start (limit : Nat) (text : Text) (depth : Nat) : (start limit text depth).Named := by
  intro cut member
  by_cases above : depth < limit
  · simp only [start, if_pos above] at member
    exact Template.isName_of_mem_cuts member
  · simp [start, above] at member

theorem named_accept
    {f : Frame}
    (named : f.Named)
    (expanded : Text) :
    (f.accept expanded).Named := by
  intro cut member
  rw [left_accept] at member
  exact named cut member

theorem pending_accept
    {f : Frame}
    (waiting : f.Waiting)
    (expanded : Text) :
    (f.accept expanded).pending = none := by
  obtain ⟨name, pending⟩ := Option.isSome_iff_exists.1 waiting.pending
  simp [accept, pending, passName]

theorem tryAccept_eq
    {f : Frame}
    (waiting : f.Waiting)
    (expanded : Text) :
    f.tryAccept expanded = .ok (f.accept expanded) := by
  obtain ⟨name, pending⟩ := Option.isSome_iff_exists.1 waiting.pending
  simp [tryAccept, accept, pending, waiting.begun]

theorem tryAdvance_eq
    (ask : Resolver σ)
    {cuts : List Cut}
    (named : ∀ cut ∈ cuts, isName cut.name)
    (f : Frame)
    (state : σ) :
    f.tryAdvance ask cuts state = .ok (f.advance ask cuts state) := by
  induction cuts generalizing f state with
  | nil => rfl
  | cons cut cuts ih =>
      have first : isName cut.name := named cut List.mem_cons_self
      have others : ∀ cut ∈ cuts, isName cut.name :=
        fun cut member => named cut (List.mem_cons_of_mem _ member)
      rcases answer : ask cut.name state with ⟨_ | value, after⟩
      · simp [tryAdvance, advance, answer, format, first, ih others]
      · simp [tryAdvance, advance, answer]

section Passes

variable {ask : Resolver σ} {cuts : List Cut} {f : Frame} {state : σ}
  {outcome : Option Text × Frame × σ}

theorem Passes.waiting
    (passes : Passes ask cuts f state outcome)
    (answered : outcome.1.isSome) :
    outcome.2.1.Waiting := by
  induction passes with
  | nil => cases answered
  | keep _ _ ih => exact ih answered
  | meet cuts f => exact ⟨by simp [passLiteral], rfl⟩

theorem Passes.cuts_subset (passes : Passes ask cuts f state outcome) :
    outcome.2.1.left.cuts ⊆ cuts := by
  induction passes with
  | nil => exact List.Subset.refl []
  | keep _ _ ih => exact List.subset_cons_of_subset _ ih
  | meet cuts => exact List.subset_cons_self _ cuts

end Passes

/-- The names of the cuts that a frame passes are all that it asks. -/
theorem Passes.asked
    {ask : Resolver σ}
    {cuts : List Cut}
    {f : Frame}
    {state : List Text × σ}
    {outcome : Option Text × Frame × List Text × σ}
    (passes : Passes ask.logged cuts f state outcome)
    {name : Text}
    (member : name ∈ outcome.2.2.1) :
    name ∈ state.1 ∨ ∃ cut ∈ cuts, cut.name = name := by
  induction passes with
  | nil => exact .inl member
  | @keep cut cuts f state after outcome unanswered _ ih =>
      have log : after.1 = state.1 ++ [cut.name] :=
        congrArg (fun reply => reply.2.1) unanswered.symm
      rcases ih member with earlier | ⟨other, later, same⟩
      · rw [log, List.mem_append, List.mem_singleton] at earlier
        rcases earlier with earlier | rfl
        · exact .inl earlier
        · exact .inr ⟨cut, List.mem_cons_self, rfl⟩
      · exact .inr ⟨other, List.mem_cons_of_mem cut later, same⟩
  | @meet cut cuts f state after value answered =>
      have log : after.1 = state.1 ++ [cut.name] :=
        congrArg (fun reply => reply.2.1) answered.symm
      rw [log, List.mem_append, List.mem_singleton] at member
      rcases member with earlier | rfl
      · exact .inl earlier
      · exact .inr ⟨cut, List.mem_cons_self, rfl⟩

end Frame

namespace Machine

variable {limit : Nat} {ask : Resolver σ}

/-- What every step keeps. -/
structure Kept (limit : Nat) (frames : List Frame) : Prop where
  nonempty : frames ≠ []
  placed : Placed limit frames
  named : ∀ f ∈ frames, f.Named
  topIdle : ∀ f ∈ frames.head?, f.pending = none
  belowWaiting : ∀ f ∈ frames.tail, f.Waiting

theorem kept_start (text : Text) (state : σ) : Kept limit (start limit text state).frames where
  nonempty := List.cons_ne_nil _ _
  placed := placed_start text state
  named f member := by
    rw [List.mem_singleton.1 member]
    exact Frame.named_start limit text 0
  topIdle f member := by
    cases member
    rfl
  belowWaiting f member := by cases member

theorem kept_moves
    {m next : Machine σ}
    (moves : Moves limit ask m next)
    (kept : Kept limit m.frames) :
    Kept limit next.frames := by
  cases moves with
  | @push top passed below state after value advanced =>
      have passes := Frame.passes_of_advance advanced
      have topNamed : top.Named := kept.named top List.mem_cons_self
      refine ⟨List.cons_ne_nil _ _, placed_push kept.placed passes, ?_, ?_, ?_⟩
      · intro f member
        rcases List.mem_cons.1 member with rfl | member
        · exact Frame.named_start limit value _
        rcases List.mem_cons.1 member with rfl | member
        · exact fun cut inCuts => topNamed cut (passes.cuts_subset inCuts)
        · exact kept.named f (List.mem_cons_of_mem top member)
      · intro f member
        cases member
        rfl
      · intro f member
        rcases List.mem_cons.1 member with rfl | member
        · exact passes.waiting rfl
        · exact kept.belowWaiting f member
  | @pop top passed lower below state after advanced =>
      have lowerWaiting : lower.Waiting := kept.belowWaiting lower List.mem_cons_self
      have lowerNamed : lower.Named := kept.named lower (by simp)
      refine ⟨List.cons_ne_nil _ _, placed_accept kept.placed.2 _, ?_, ?_, ?_⟩
      · intro f member
        rcases List.mem_cons.1 member with rfl | member
        · exact Frame.named_accept lowerNamed _
        · exact kept.named f (by simp [member])
      · intro f member
        cases member
        exact Frame.pending_accept lowerWaiting _
      · intro f member
        exact kept.belowWaiting f (List.mem_cons_of_mem lower member)

theorem tryStep_eq
    {m : Machine σ}
    (kept : Kept limit m.frames) :
    m.tryStep limit ask = .ok (m.step limit ask) := by
  obtain ⟨frames, state⟩ := m
  cases frames with
  | nil => exact absurd rfl kept.nonempty
  | cons top below =>
      have topNamed : top.Named := kept.named top List.mem_cons_self
      simp only [tryStep, step, Frame.tryAdvance_eq ask topNamed]
      rcases top.advance ask top.left.cuts state with ⟨_ | value, passed, after⟩
      · cases below with
        | nil => rfl
        | cons lower others =>
            have lowerWaiting : lower.Waiting := kept.belowWaiting lower List.mem_cons_self
            simp [Frame.tryAccept_eq lowerWaiting]
      · rfl

theorem depth_eq_place
    {frames : List Frame}
    (placed : Placed limit frames)
    {place : Nat}
    {f : Frame}
    (found : frames.reverse[place]? = some f) :
    f.depth = place := by
  induction frames with
  | nil => simp at found
  | cons top below ih =>
      rw [List.reverse_cons] at found
      rcases Nat.lt_trichotomy place below.length with lower | rfl | beyond
      · rw [List.getElem?_append_left (by simpa using lower)] at found
        exact ih placed.2 found
      · rw [List.getElem?_append_right (by simp)] at found
        simp only [List.length_reverse, Nat.sub_self, List.getElem?_cons_zero,
          Option.some.injEq] at found
        rw [← found, placed.1.1]
      · rw [List.getElem?_eq_none (by simp; omega)] at found
        cases found

theorem cut_of_mem_asks
    {top : Frame}
    {below : List Frame}
    {state : σ}
    {name : Text}
    (member : name ∈ asks limit ask ⟨top :: below, state⟩) :
    ∃ cut ∈ top.left.cuts, cut.name = name := by
  have passes := Frame.passes_advance ask.logged top.left.cuts top ([], state)
  have logged : name ∈ (top.advance ask.logged top.left.cuts ([], state)).2.2.1 := by
    rcases advanced : top.advance ask.logged top.left.cuts ([], state) with
      ⟨_ | value, passed, after⟩
    · cases below <;> simpa [asks, step, advanced] using member
    · simpa [asks, step, advanced] using member
  rcases passes.asked logged with earlier | found
  · cases earlier
  · exact found

theorem orderly_of_kept
    {m : Machine σ}
    (kept : Kept limit m.frames) :
    Orderly limit ask m := by
  obtain ⟨frames, state⟩ := m
  cases frames with
  | nil => exact absurd rfl kept.nonempty
  | cons top below =>
      refine ⟨kept.nonempty, ?_, ?_, kept.topIdle, ?_, ?_, ?_⟩
      · have placedTop := kept.placed.1
        simp only [List.length_cons]
        omega
      · intro place f found
        exact depth_eq_place kept.placed found
      · intro f member
        exact (kept.belowWaiting f member).pending
      · intro name member
        obtain ⟨cut, inCuts, rfl⟩ := cut_of_mem_asks member
        exact kept.named top List.mem_cons_self cut inCuts
      · intro someAsked f member
        cases member
        obtain ⟨name, member⟩ := List.exists_mem_of_ne_nil _ someAsked
        obtain ⟨cut, inCuts, _⟩ := cut_of_mem_asks member
        exact depth_lt_of_cuts kept.placed (List.ne_nil_of_mem inCuts)

/-! ## Runs -/

/-- The invariant of a machine under way; a result needs none. -/
def KeptNow (limit : Nat) : Machine σ ⊕ (Text × σ) → Prop
  | .inl m => Kept limit m.frames
  | .inr _ => True

theorem keptNow_step
    {m : Machine σ}
    (kept : Kept limit m.frames) :
    KeptNow limit (m.step limit ask) := by
  cases stepped : m.step limit ask with
  | inl next => exact kept_moves (moves_of_step ask stepped) kept
  | inr result => trivial

/-- Checked steps never fail, and they keep both the invariant and what the run comes to. -/
theorem after_of_kept
    {now : Machine σ ⊕ (Text × σ)}
    {result : Text × σ}
    (kept : KeptNow limit now)
    (ends : Ends limit ask now result)
    (count : Nat) :
    ∃ later, after limit ask count now = .ok later ∧ KeptNow limit later ∧
      Ends limit ask later result := by
  induction count generalizing now with
  | zero => exact ⟨now, rfl, kept, ends⟩
  | succ count ih =>
      cases ends with
      | stop => exact ⟨.inr result, rfl, trivial, .stop result⟩
      | @go m _ ends =>
          simpa only [after, tryStep_eq kept] using ih (keptNow_step kept) ends

theorem exists_after
    {now : Machine σ ⊕ (Text × σ)}
    {result : Text × σ}
    (kept : KeptNow limit now)
    (ends : Ends limit ask now result) :
    ∃ count, after limit ask count now = .ok (.inr result) := by
  induction ends with
  | stop result => exact ⟨0, rfl⟩
  | @go m result _ ih =>
      obtain ⟨count, finished⟩ := ih (keptNow_step kept)
      exact ⟨count + 1, by simpa only [after, tryStep_eq kept] using finished⟩

end Machine

open Machine in
/-- Every expansion ends after finitely many steps, none of which fails, and is orderly until then:
with `depthLimit` there are at most 1025 frames, and none at depth 1024 asks anything. -/
theorem expansion_ends_orderly
    (ask : Resolver σ)
    (template : Text)
    (state : σ) :
    let first := Sum.inl (start depthLimit template state)
    let result := expand ask template state
    (∃ count, after depthLimit ask count first = .ok (.inr result)) ∧
      ∀ count,
        after depthLimit ask count first = .ok (.inr result) ∨
          ∃ m, after depthLimit ask count first = .ok (.inl m) ∧ Orderly depthLimit ask m := by
  have kept : KeptNow depthLimit (.inl (start depthLimit template state)) :=
    kept_start template state
  have ends : Ends depthLimit ask (.inl (start depthLimit template state))
      (expand ask template state) :=
    ends_run _ (placed_start template state)
  refine ⟨exists_after kept ends, fun count => ?_⟩
  obtain ⟨later, reached, keptLater, endsLater⟩ := after_of_kept kept ends count
  cases endsLater with
  | stop => exact .inl reached
  | @go m _ _ => exact .inr ⟨m, reached, orderly_of_kept keptLater⟩

end Stencil.Expansion
