import Stencil.Proofs.Expansion.Refinement

/-!
The depth limit and definitions that are not too deep.  `Fills` is the plain recursion without a
limit, as a relation because it need not end.  When every chain of answered names fits under the
limit, the recursion ends, and no limit that large can be told from having none: a text at the limit
then holds no name with an answer, so leaving it as it is and searching it give the same text.
-/
namespace Stencil.Expansion

open Placeholder

/-- Filling the cuts of a template without a limit on the depth.  The first text is what stands
before the template, last character first. -/
inductive Fills (answer : Text → Option Text) : Text → Template → Text → Prop
  | rest (passed rest : Text) : Fills answer passed ⟨[], rest⟩ rest
  | kept {passed rest tail : Text} {cut : Cut} {cuts : List Cut} :
      answer cut.name = none →
      Fills answer ((wrap cut.name).reverse ++ (cut.literal.reverse ++ passed)) ⟨cuts, rest⟩ tail →
      Fills answer passed ⟨cut :: cuts, rest⟩ (cut.literal ++ wrap cut.name ++ tail)
  /-- The name is answered, and the answer is filled in turn. -/
  | replaced {passed rest tail value inner : Text} {cut : Cut} {cuts : List Cut} :
      answer cut.name = some value →
      Fills answer [] (Template.scan value) inner →
      Fills answer ((wrap cut.name).reverse ++ (cut.literal.reverse ++ passed)) ⟨cuts, rest⟩ tail →
      Fills answer passed ⟨cut :: cuts, rest⟩
        (cut.literal ++ align inner (leadOf (cut.literal.reverse ++ passed)) ++ tail)

/-- A text expands to another one without a limit on the depth. -/
def Expands (answer : Text → Option Text) (text out : Text) : Prop :=
  Fills answer [] (Template.scan text) out

/-- Names that are all answered, the first one used in a text and every other one in the answer of
the one before it. -/
inductive Chain (answer : Text → Option Text) : Text → List Text → Prop
  | nil (text : Text) : Chain answer text []
  | cons {text name value : Text} {names : List Text} :
      name ∈ (Template.scan text).names →
      answer name = some value →
      Chain answer value names →
      Chain answer text (name :: names)

variable {σ : Type} {answer : Text → Option Text}

theorem Fills.unique
    {passed first second : Text}
    {t : Template}
    (fills : Fills answer passed t first)
    (fills' : Fills answer passed t second) :
    first = second := by
  induction fills generalizing second with
  | rest passed rest =>
      cases fills'
      rfl
  | kept unanswered _ ih =>
      cases fills' with
      | kept _ later => rw [ih later]
      | replaced answered _ _ => cases unanswered.symm.trans answered
  | replaced answered _ _ ihInner ih =>
      cases fills' with
      | kept unanswered _ => cases unanswered.symm.trans answered
      | replaced answered' inner later =>
          cases answered.symm.trans answered'
          rw [ihInner inner, ih later]

/-- A template whose names are not answered is filled with its own text. -/
theorem fills_render
    {cuts : List Cut}
    (unanswered : ∀ cut ∈ cuts, answer cut.name = none)
    (passed rest : Text) :
    Fills answer passed ⟨cuts, rest⟩ (Template.render ⟨cuts, rest⟩) := by
  induction cuts generalizing passed with
  | nil => exact .rest passed rest
  | cons cut cuts ih =>
      have first : answer cut.name = none := unanswered cut List.mem_cons_self
      have later := ih (fun cut member => unanswered cut (List.mem_cons_of_mem _ member))
        ((wrap cut.name).reverse ++ (cut.literal.reverse ++ passed))
      simpa [Template.render] using Fills.kept first later

theorem fills_substitute
    {deeper : Text → σ → Text × σ}
    {cuts : List Cut}
    (nested : ∀ cut ∈ cuts, ∀ value, answer cut.name = some value →
      ∀ state, Expands answer value (deeper value state).1)
    (passed rest : Text)
    (state : σ) :
    Fills answer passed ⟨cuts, rest⟩
      (substitute (.pure answer) deeper rest passed cuts state).1 := by
  induction cuts generalizing passed state with
  | nil => exact .rest passed rest
  | cons cut cuts ih =>
      have later := ih fun cut member => nested cut (List.mem_cons_of_mem _ member)
      cases answered : answer cut.name with
      | none =>
          simp only [substitute, replacement, Resolver.pure, answered]
          exact .kept answered (later _ state)
      | some value =>
          simp only [substitute, replacement, Resolver.pure, answered]
          exact .replaced answered (nested cut List.mem_cons_self value answered state) (later _ _)

/-- On as many levels as the longest chain has names, nothing is left to expand. -/
theorem expands_expandLevels
    (levels : Nat)
    {text : Text}
    (shallow : ∀ names, Chain answer text names → names.length ≤ levels)
    (state : σ) :
    Expands answer text (expandLevels (.pure answer) levels text state).1 := by
  induction levels generalizing text state with
  | zero =>
      -- An answered name would be a chain of its own, so the text holds none.
      have unanswered : ∀ cut ∈ (Template.scan text).cuts, answer cut.name = none := by
        intro cut member
        cases answered : answer cut.name with
        | none => rfl
        | some value =>
            have chain := Chain.cons (List.mem_map_of_mem member) answered (.nil value)
            exact absurd (shallow _ chain) (Nat.not_succ_le_zero 0)
      have filled := fills_render unanswered [] (Template.scan text).rest
      rwa [Template.render_scan] at filled
  | succ levels ih =>
      refine fills_substitute ?_ [] (Template.scan text).rest state
      intro cut member value answered state
      refine ih (fun names chain => ?_) state
      exact Nat.le_of_succ_le_succ
        (shallow _ (.cons (List.mem_map_of_mem member) answered chain))

/-- Where no chain of answered names is longer than the limit, expansion is the plain recursion
without a limit, which is then well defined, and no larger limit changes it. -/
theorem expand_eq_unlimited
    {template : Text}
    (shallow : ∀ names, Chain answer template names → names.length ≤ depthLimit)
    (state : σ) :
    let result := (expand (.pure answer) template state).1
    (∀ out, Expands answer template out ↔ out = result) ∧
      ∀ limit, depthLimit ≤ limit →
        (expandWithin limit (.pure answer) template state).1 = result := by
  have within : ∀ limit, depthLimit ≤ limit →
      Expands answer template (expandWithin limit (.pure answer) template state).1 := by
    intro limit larger
    rw [expandWithin_eq_expandLevels]
    exact expands_expandLevels limit
      (fun names chain => Nat.le_trans (shallow names chain) larger) state
  have unlimited := within depthLimit (Nat.le_refl _)
  refine ⟨fun out => ⟨fun expands => expands.unique unlimited, ?_⟩, fun limit larger => ?_⟩
  · rintro rfl
    exact unlimited
  · exact (within limit larger).unique unlimited

/-! ## A chain as long as the limit -/

def countName (count : Nat) : Text :=
  List.replicate count 'a'

/-- Answers with the placeholder of the name that is one letter shorter, down to the last one. -/
def countdown : Text → Option Text
  | 'a' :: 'a' :: shorter => some (wrap ('a' :: shorter))
  | ['a'] => some "end".toList
  | _ => none

theorem scan_wrap_countName (count : Nat) :
    Template.scan (wrap (countName (count + 1))) = ⟨[⟨[], countName (count + 1)⟩], []⟩ := by
  have letter : isNameChar 'a' = true := by decide
  have named : isName (countName (count + 1)) = true := by
    simp [isName, countName, List.replicate_succ, letter]
  have alone := Template.scan_wrap named []
  rwa [List.append_nil] at alone

theorem length_le_of_chain_countdown
    (count : Nat)
    {names : List Text}
    (chain : Chain countdown (wrap (countName (count + 1))) names) :
    names.length ≤ count + 1 := by
  induction count generalizing names with
  | zero =>
      cases chain with
      | nil => exact Nat.zero_le _
      | @cons _ name value names member answered chain =>
          rw [scan_wrap_countName] at member
          obtain rfl : name = countName 1 := List.mem_singleton.1 member
          cases answered
          have noName : (Template.scan "end".toList).names = [] := by decide
          cases chain with
          | nil => exact Nat.le_refl _
          | cons member =>
              rw [noName] at member
              cases member
  | succ count ih =>
      cases chain with
      | nil => exact Nat.zero_le _
      | @cons _ name value names member answered chain =>
          rw [scan_wrap_countName] at member
          obtain rfl : name = countName (count + 2) := List.mem_singleton.1 member
          cases answered
          exact Nat.succ_le_succ (ih chain)

theorem expands_countdown (count : Nat) :
    Expands countdown (wrap (countName (count + 1))) "end".toList := by
  have aligned :
      [] ++ align "end".toList (leadOf ([].reverse ++ [])) ++ [] = "end".toList := by
    decide +kernel
  have step : ∀ {name value : Text}, countdown name = some value →
      Expands countdown value "end".toList →
      Fills countdown [] ⟨[⟨[], name⟩], []⟩ "end".toList := by
    intro name value answered inner
    have filled : Fills countdown [] ⟨[⟨[], name⟩], []⟩
        ([] ++ align "end".toList (leadOf ([].reverse ++ [])) ++ []) :=
      .replaced answered inner (.rest _ [])
    rwa [aligned] at filled
  induction count with
  | zero =>
      rw [Expands, scan_wrap_countName]
      exact step rfl (.rest [] "end".toList)
  | succ count ih =>
      rw [Expands, scan_wrap_countName]
      exact step rfl ih

/-- A chain of 1024 names ends in a frame that is not searched, and is expanded all the same. -/
theorem expand_countdown_limit :
    (∀ names, Chain countdown (wrap (countName 1024)) names → names.length ≤ depthLimit) ∧
      (expand (.pure countdown) (wrap (countName 1024)) ()).1 = "end".toList := by
  have shallow : ∀ names, Chain countdown (wrap (countName 1024)) names →
      names.length ≤ depthLimit :=
    fun names chain => length_le_of_chain_countdown 1023 chain
  exact ⟨shallow, ((expand_eq_unlimited shallow ()).1 _).1 (expands_countdown 1023) |>.symm⟩

end Stencil.Expansion
