import Stencil.Expansion.Nested
import Stencil.Proofs.Placeholder.Scan

/-!
The expansion machine computes the plain recursion.  A frame that still has placeholders to pass
stands for what `substitute` makes of them, so a stack of frames is a recursion that is under way:
whatever the frames below wait for, the top frame hands them the text that the recursion gives.
-/
namespace Stencil.Expansion

open Placeholder

variable {σ : Type}

namespace Frame

/-- What a frame comes to when the cuts that are left to it are filled. -/
def complete (ask : Resolver σ) (deeper : Text → σ → Text × σ) (f : Frame) (cuts : List Cut)
    (state : σ) : Text × σ :=
  let tail := substitute ask deeper f.left.rest f.passed cuts state
  (f.pieces.reverse.flatten ++ tail.1, tail.2)

section Complete

variable (ask : Resolver σ) (deeper : Text → σ → Text × σ)

theorem complete_cons
    (f : Frame)
    (cut : Cut)
    (cuts : List Cut)
    (state : σ) :
    f.complete ask deeper (cut :: cuts) state =
      let insert := replacement ask deeper (cut.literal.reverse ++ f.passed) cut.name state
      ((f.passLiteral cut.literal).passName cut.name insert.1).complete ask deeper cuts
        insert.2 := by
  simp [complete, substitute, passLiteral, passName]

/-- What becomes of a frame that has passed cuts: it is finished when it met no answer, and goes on
from the place of the answer when it met one. -/
def conclude : Option Text × Frame × σ → Text × σ
  | (none, passed, after) => (passed.finish, after)
  | (some value, passed, after) =>
    let inner := deeper value after
    (passed.accept inner.1).complete ask deeper passed.left.cuts inner.2

variable {ask}

theorem Passes.complete_eq
    {cuts : List Cut}
    {f : Frame}
    {state : σ}
    {outcome : Option Text × Frame × σ}
    (passes : Passes ask cuts f state outcome) :
    f.complete ask deeper cuts state = conclude ask deeper outcome := by
  induction passes with
  | nil f state => rfl
  | keep unanswered _ ih =>
      rw [complete_cons, ← ih]
      simp [replacement, unanswered]
  | meet cuts f answered =>
      rw [complete_cons]
      simp [conclude, replacement, answered, accept, passLiteral, passName, lead, complete]

end Complete

end Frame

/-! ## Runs of the machine -/

namespace Machine

/-- A machine that is under way, or a result, comes to a final result. -/
inductive Ends (limit : Nat) (ask : Resolver σ) : Machine σ ⊕ (Text × σ) → Text × σ → Prop
  | stop (result : Text × σ) : Ends limit ask (.inr result) result
  | go {m : Machine σ} {result : Text × σ} :
      Ends limit ask (m.step limit ask) result → Ends limit ask (.inl m) result

/-- Hands a result to the frames below. -/
def resume : List Frame → Text × σ → Machine σ ⊕ (Text × σ)
  | [], result => .inr result
  | next :: others, result => .inl ⟨next.accept result.1 :: others, result.2⟩

variable {limit : Nat} {ask : Resolver σ}

theorem ends_run
    (m : Machine σ)
    (placed : Placed limit m.frames) :
    Ends limit ask (.inl m) (m.run limit ask placed) := by
  induction m, placed using run.induct limit ask with
  | case1 m placed next stepped ih =>
      rw [run]
      refine .go ?_
      split
      · next other stepped' =>
          obtain rfl : next = other := Sum.inl.inj (stepped.symm.trans stepped')
          simpa only [stepped] using ih
      · next result stepped' => cases stepped.symm.trans stepped'
  | case2 m placed result stepped =>
      rw [run]
      refine .go ?_
      split
      · next other stepped' => cases stepped.symm.trans stepped'
      · next other stepped' =>
          rw [stepped']
          exact .stop other

theorem Ends.unique
    {m : Machine σ ⊕ (Text × σ)}
    {first second : Text × σ}
    (ends : Ends limit ask m first)
    (ends' : Ends limit ask m second) :
    first = second := by
  induction ends with
  | stop result => cases ends'; rfl
  | go ends ih =>
      cases ends' with
      | go ends' => exact ih ends'

theorem step_of_advance_none
    {top passed : Frame}
    {below : List Frame}
    {state after : σ}
    (advanced : top.advance ask top.left.cuts state = (none, passed, after)) :
    step limit ask ⟨top :: below, state⟩ = resume below (passed.finish, after) := by
  cases below <;> simp [step, advanced, resume]

theorem step_of_advance_some
    {top passed : Frame}
    {below : List Frame}
    {state after : σ}
    {value : Text}
    (advanced : top.advance ask top.left.cuts state = (some value, passed, after)) :
    step limit ask ⟨top :: below, state⟩ =
      .inl ⟨Frame.start limit value (passed.depth + 1) :: passed :: below, after⟩ := by
  simp [step, advanced]

/-- When the frames put on a frame come to what `deeper` says, the frame comes to its completion. -/
theorem ends_of_resume_complete
    {deeper : Text → σ → Text × σ}
    (f : Frame)
    (below : List Frame)
    (state : σ)
    {result : Text × σ}
    (nested : ∀ value frames state,
      Ends limit ask (resume frames (deeper value state)) result →
        Ends limit ask (.inl ⟨Frame.start limit value (f.depth + 1) :: frames, state⟩) result)
    (ends : Ends limit ask (resume below (f.complete ask deeper f.left.cuts state)) result) :
    Ends limit ask (.inl ⟨f :: below, state⟩) result := by
  -- The frame comes back to the top once for every answer it meets, each time with fewer cuts.
  induction size : f.left.cuts.length using Nat.strongRecOn generalizing f state with
  | ind size' ih =>
      subst size
      refine .go ?_
      rcases advanced : f.advance ask f.left.cuts state with ⟨_ | value, passed, after⟩
      · rw [step_of_advance_none advanced]
        rwa [(Frame.passes_of_advance advanced).complete_eq deeper] at ends
      · have passes := Frame.passes_of_advance advanced
        have same : passed.depth = f.depth := passes.depth_eq
        have shorter : passed.left.cuts.length < f.left.cuts.length := passes.length_cuts_lt rfl
        rw [passes.complete_eq deeper] at ends
        rw [step_of_advance_some advanced, same]
        refine nested value (passed :: below) after ?_
        refine ih _ ?_ (passed.accept _) _ ?_ ?_ rfl
        · rwa [Frame.left_accept]
        · rwa [Frame.depth_accept, same]
        · rwa [Frame.left_accept]

/-- A new frame comes to the plain expansion of its text on the levels below the limit. -/
theorem ends_start
    {levels depth : Nat}
    (room : depth + levels = limit)
    (text : Text)
    (below : List Frame)
    (state : σ)
    {result : Text × σ}
    (ends : Ends limit ask (resume below (expandLevels ask levels text state)) result) :
    Ends limit ask (.inl ⟨Frame.start limit text depth :: below, state⟩) result := by
  induction levels generalizing depth text below state with
  | zero =>
      have deep : ¬ depth < limit := by omega
      have advanced :
          (Frame.start limit text depth).advance ask (Frame.start limit text depth).left.cuts state =
            (none, ⟨depth, [], [], ⟨[], text⟩, none⟩, state) := by
        simp [Frame.start, deep, Frame.advance]
      refine .go ?_
      rw [step_of_advance_none advanced]
      exact ends
  | succ levels ih =>
      have above : depth < limit := by omega
      have started : Frame.start limit text depth = ⟨depth, [], [], Template.scan text, none⟩ := by
        simp [Frame.start, above]
      have nested : ∀ value frames state,
          Ends limit ask (resume frames (expandLevels ask levels value state)) result →
            Ends limit ask (.inl ⟨Frame.start limit value (depth + 1) :: frames, state⟩) result := by
        intro value frames state
        exact ih (by omega) value frames state
      rw [started]
      exact ends_of_resume_complete _ below state nested ends

end Machine

/-- The machine gives the plain expansion on as many levels as its limit allows. -/
theorem expandWithin_eq_expandLevels
    (limit : Nat)
    (ask : Resolver σ)
    (template : Text)
    (state : σ) :
    expandWithin limit ask template state = expandLevels ask limit template state := by
  have computed : Machine.Ends limit ask (.inl (Machine.start limit template state))
      (expandWithin limit ask template state) :=
    Machine.ends_run _ (Machine.placed_start template state)
  have plain : Machine.Ends limit ask (.inl (Machine.start limit template state))
      (expandLevels ask limit template state) :=
    Machine.ends_start (Nat.zero_add limit) template [] state (.stop _)
  exact computed.unique plain

theorem expand_eq_expandLevels
    (ask : Resolver σ)
    (template : Text)
    (state : σ) :
    expand ask template state = expandLevels ask depthLimit template state :=
  expandWithin_eq_expandLevels depthLimit ask template state

/-! ## Positions and questions -/

/-- What precedes a position is the lines above and the text before the position on its line. -/
theorem leadOf_suffix (before : Text) :
    ∃ above, before = above ++ leadOf before.reverse ∧ ∀ c ∈ above.getLast?, c = '\n' := by
  refine ⟨(before.reverse.dropWhile (· != '\n')).reverse, ?_, ?_⟩
  · rw [leadOf, ← List.reverse_append, List.takeWhile_append_dropWhile, List.reverse_reverse]
  · intro c last
    have stopped := List.head?_dropWhile_not (· != '\n') before.reverse
    rw [← List.getLast?_reverse, last] at stopped
    simpa using stopped

/-- The text before a position on its line is found from what precedes the position. -/
theorem leadAt_length
    (before rest : Text)
    {c : Char}
    (sameLine : c ≠ '\n') :
    leadAt (before ++ c :: rest) before.length = leadOf before.reverse := by
  have nonneg : ¬ (before.length : Int) < 0 := by omega
  have upTo : (before ++ c :: rest).take (before.length + 1) = before ++ [c] := by
    rw [List.take_length_add_append]
    rfl
  have start : Block.lineStart (before ++ c :: rest) before.length =
      before.length - (leadOf before.reverse).length := by
    simp [Block.lineStart, nonneg, upTo, sameLine, leadOf]
  obtain ⟨front, parts, _⟩ := leadOf_suffix before
  have frontLength : before.length - (leadOf before.reverse).length = front.length := by
    have total := congrArg List.length parts
    rw [List.length_append] at total
    omega
  have upToStart : (before ++ c :: rest).take before.length = before := by simp
  simp only [leadAt, nonneg, if_false, start, frontLength, Int.toNat_natCast, upToStart]
  conv => lhs; rw [parts]
  simp

variable {τ : Type}

/-- `carry` holds the names asked so far and the state of a resolver in the state of another one,
which answers alike. -/
def Carries (ask : Resolver σ) (ask' : Resolver τ) (carry : List Text → σ → τ) : Prop :=
  ∀ name log state,
    ask' name (carry log state) =
      ((ask name state).1, carry (log ++ [name]) (ask name state).2)

section Carries

variable {ask : Resolver σ} {ask' : Resolver τ} {carry : List Text → σ → τ}

theorem substitute_eq_fillFrom
    (carries : Carries ask ask' carry)
    {deeper : Text → σ → Expanded σ}
    {deeper' : Text → τ → Text × τ}
    (agree : ∀ value log state,
      deeper' value (carry log state) =
        ((deeper value state).text,
          carry (log ++ (deeper value state).asked) (deeper value state).state))
    {text rest : Text}
    (cuts : List Cut)
    (passed : Text)
    (log : List Text)
    (state : σ)
    (whole : text = passed.reverse ++ Template.render ⟨cuts, rest⟩) :
    substitute ask' deeper' rest passed cuts (carry log state) =
      let filled := fillFrom ask deeper text rest passed.length cuts state
      (filled.text, carry (log ++ filled.asked) filled.state) := by
  induction cuts generalizing passed log state with
  | nil => simp [substitute, fillFrom]
  | cons cut cuts ih =>
      have further : text =
          ((wrap cut.name).reverse ++ (cut.literal.reverse ++ passed)).reverse ++
            Template.render ⟨cuts, rest⟩ := by
        rw [whole]
        simp [Template.render]
      have stop : ((wrap cut.name).reverse ++ (cut.literal.reverse ++ passed)).length =
          passed.length + cut.literal.length + (wrap cut.name).length := by
        simp only [List.length_append, List.length_reverse]
        omega
      have lead : leadAt text ((passed.length + cut.literal.length : Nat) : Int) =
          leadOf (cut.literal.reverse ++ passed) := by
        have found := leadAt_length (passed.reverse ++ cut.literal)
          (cut.name ++ '}' :: Template.render ⟨cuts, rest⟩) (c := '{') (by decide)
        simpa [whole, Template.render, wrap] using found
      simp only [substitute, fillFrom, replacement, carries cut.name log state]
      rcases ask cut.name state with ⟨_ | value, after⟩
      · simp only [ih _ _ _ further, stop]
        simp
      · simp only [agree, ih _ _ _ further, stop, alignAt, lead]
        simp

/-- The two forms of the plain recursion agree, and a resolver that carries a log notes the names
in the order in which the plain recursion asks them. -/
theorem expandLevels_eq_expandAtDepth
    (carries : Carries ask ask' carry)
    {levels depth : Nat}
    (room : depth + levels = depthLimit)
    (text : Text)
    (log : List Text)
    (state : σ) :
    expandLevels ask' levels text (carry log state) =
      let plain := expandAtDepth ask depth text state
      (plain.text, carry (log ++ plain.asked) plain.state) := by
  induction levels generalizing depth text log state with
  | zero =>
      have deep : depth ≥ depthLimit := by omega
      rw [expandAtDepth, if_pos deep]
      simp [expandLevels]
  | succ levels ih =>
      have above : ¬ depth ≥ depthLimit := by omega
      rw [expandAtDepth, if_neg above]
      refine substitute_eq_fillFrom carries ?_ _ [] log state (Template.render_scan text).symm
      intro value log state
      exact ih (by omega) value log state

end Carries

theorem carries_state (ask : Resolver σ) : Carries ask ask fun _ state => state :=
  fun _ _ _ => rfl

theorem carries_logged (ask : Resolver σ) : Carries ask ask.logged Prod.mk :=
  fun _ _ _ => rfl

/-- The loop over the stack of frames refines plain recursion: it gives the same text, asks the same
names in the same order and leaves the resolver in the same state. -/
theorem expand_refines_recursion
    (ask : Resolver σ)
    (template : Text)
    (state : σ) :
    let plain := expandAtDepth ask 0 template state
    expand ask template state = (plain.text, plain.state) ∧
      expand ask.logged template ([], state) = (plain.text, plain.asked, plain.state) := by
  have levels : 0 + depthLimit = depthLimit := Nat.zero_add depthLimit
  constructor
  · rw [expand_eq_expandLevels]
    exact expandLevels_eq_expandAtDepth (carries_state ask) levels template [] state
  · rw [expand_eq_expandLevels]
    exact expandLevels_eq_expandAtDepth (carries_logged ask) levels template [] state

end Stencil.Expansion
