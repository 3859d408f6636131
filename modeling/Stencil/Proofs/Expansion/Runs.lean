import Stencil.Proofs.Expansion.Refinement

/-!
Expansion as a relation.  `Runs` follows the plain recursion with one rule for each thing that can
become of a placeholder, so what holds of every expansion is shown by cases on these rules.  The
first use is that a resolver which keeps more in its state than another one, and answers alike,
leads to the same text.
-/
namespace Stencil

/-- The finer resolver answers like the other one, and `view` finds the state of the other one in
its own. -/
def Resolver.Shows {σ τ : Type} (view : τ → σ) (finer : Resolver τ) (ask : Resolver σ) : Prop :=
  ∀ name state, ask name (view state) = ((finer name state).1, view (finer name state).2)

namespace Expansion

open Placeholder

variable {σ τ : Type}

/-- A text as its expansion begins: cut at its placeholders when a level is left for it. -/
def opened : Nat → Text → Template
  | 0, text => ⟨[], text⟩
  | _ + 1, text => Template.scan text

/-- Filling a template on so many levels leads from a state to a text and another state.  The text
is what stands before the template, last character first. -/
inductive Runs (ask : Resolver σ) : Nat → Text → Template → σ → Text × σ → Prop
  | rest (levels : Nat) (passed rest : Text) (state : σ) :
      Runs ask levels passed ⟨[], rest⟩ state (rest, state)
  | kept {levels : Nat} {passed rest : Text} {cut : Cut} {cuts : List Cut} {state after : σ}
      {tail : Text × σ} :
      ask cut.name state = (none, after) →
      Runs ask (levels + 1) ((wrap cut.name).reverse ++ (cut.literal.reverse ++ passed))
        ⟨cuts, rest⟩ after tail →
      Runs ask (levels + 1) passed ⟨cut :: cuts, rest⟩ state
        (cut.literal ++ wrap cut.name ++ tail.1, tail.2)
  /-- The name is answered, and the answer is expanded one level deeper. -/
  | replaced {levels : Nat} {passed rest value : Text} {cut : Cut} {cuts : List Cut}
      {state after : σ} {inner tail : Text × σ} :
      ask cut.name state = (some value, after) →
      Runs ask levels [] (opened levels value) after inner →
      Runs ask (levels + 1) ((wrap cut.name).reverse ++ (cut.literal.reverse ++ passed))
        ⟨cuts, rest⟩ inner.2 tail →
      Runs ask (levels + 1) passed ⟨cut :: cuts, rest⟩ state
        (cut.literal ++ align inner.1 (leadOf (cut.literal.reverse ++ passed)) ++ tail.1, tail.2)

/-! ## The relation and the recursion -/

theorem runs_substitute
    {ask : Resolver σ}
    {levels : Nat}
    {deeper : Text → σ → Text × σ}
    (nested : ∀ value state, Runs ask levels [] (opened levels value) state (deeper value state))
    (passed rest : Text)
    (cuts : List Cut)
    (state : σ) :
    Runs ask (levels + 1) passed ⟨cuts, rest⟩ state
      (substitute ask deeper rest passed cuts state) := by
  induction cuts generalizing passed state with
  | nil => exact .rest _ passed rest state
  | cons cut cuts ih =>
      rcases answer : ask cut.name state with ⟨_ | value, after⟩
      · simp only [substitute, replacement, answer]
        exact .kept answer (ih _ after)
      · simp only [substitute, replacement, answer]
        exact .replaced answer (nested value after) (ih _ _)

theorem runs_expandLevels
    (ask : Resolver σ)
    (levels : Nat)
    (text : Text)
    (state : σ) :
    Runs ask levels [] (opened levels text) state (expandLevels ask levels text state) := by
  induction levels generalizing text state with
  | zero => exact .rest 0 [] text state
  | succ levels ih => exact runs_substitute ih [] _ _ state

theorem runs_expand
    (ask : Resolver σ)
    (template : Text)
    (state : σ) :
    Runs ask depthLimit [] (Template.scan template) state (expand ask template state) := by
  rw [expand_eq_expandLevels]
  exact runs_expandLevels ask depthLimit template state

theorem Runs.unique
    {ask : Resolver σ}
    {levels : Nat}
    {passed : Text}
    {t : Template}
    {state : σ}
    {first second : Text × σ}
    (runs : Runs ask levels passed t state first)
    (runs' : Runs ask levels passed t state second) :
    first = second := by
  induction runs generalizing second with
  | rest =>
      cases runs'
      rfl
  | kept unanswered _ ih =>
      cases runs' with
      | kept unanswered' later =>
          cases unanswered.symm.trans unanswered'
          rw [ih later]
      | replaced answered => cases unanswered.symm.trans answered
  | replaced answered _ _ ihInner ih =>
      cases runs' with
      | kept unanswered => cases answered.symm.trans unanswered
      | replaced answered' inner later =>
          cases answered.symm.trans answered'
          cases ihInner inner
          rw [ih later]

theorem expand_eq_of_runs
    {ask : Resolver σ}
    {template : Text}
    {state : σ}
    {result : Text × σ}
    (runs : Runs ask depthLimit [] (Template.scan template) state result) :
    expand ask template state = result :=
  (runs_expand ask template state).unique runs

/-! ## Resolvers that keep more in their state -/

theorem Runs.view
    {view : τ → σ}
    {finer : Resolver τ}
    {ask : Resolver σ}
    (shows : Resolver.Shows view finer ask)
    {levels : Nat}
    {passed : Text}
    {t : Template}
    {state : τ}
    {result : Text × τ}
    (runs : Runs finer levels passed t state result) :
    Runs ask levels passed t (view state) (result.1, view result.2) := by
  induction runs with
  | rest levels passed rest state => exact .rest levels passed rest (view state)
  | @kept _ _ _ cut _ state _ _ unanswered _ ih =>
      have answer := shows cut.name state
      rw [unanswered] at answer
      have filled := Runs.kept answer ih
      exact filled
  | @replaced _ _ _ _ cut _ state _ _ _ answered _ _ ihInner ih =>
      have answer := shows cut.name state
      rw [answered] at answer
      have filled := Runs.replaced answer ihInner ih
      exact filled

theorem expand_view
    {view : τ → σ}
    {finer : Resolver τ}
    {ask : Resolver σ}
    (shows : Resolver.Shows view finer ask)
    (template : Text)
    (state : τ) :
    expand ask template (view state) =
      ((expand finer template state).1, view (expand finer template state).2) :=
  expand_eq_of_runs ((runs_expand finer template state).view shows)

end Expansion

end Stencil
