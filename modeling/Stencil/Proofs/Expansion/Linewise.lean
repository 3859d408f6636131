import Stencil.Proofs.Block.Lines
import Stencil.Proofs.Expansion.Transcript

/-!
Expansion is line-wise.  No placeholder holds a line feed, and a placeholder is aligned by what
stands before it on its own line, so the texts on the two sides of a line feed are expanded one
after the other, and so are the lines of a template.
-/
namespace Stencil.Expansion

open Placeholder

variable {σ : Type} (ask : Resolver σ) (deeper : Text → σ → Text × σ)

theorem leadOf_of_no_feed
    {passed : Text}
    (clean : '\n' ∉ passed) :
    leadOf passed = passed.reverse := by
  have inLine : ∀ c ∈ passed, (c != '\n') = true := by
    intro c member
    simpa using fun same : c = '\n' => clean (same ▸ member)
  have whole : (passed ++ []).takeWhile (· != '\n') = passed ++ [].takeWhile (· != '\n') :=
    List.takeWhile_append_of_pos inLine
  simp only [List.append_nil, List.takeWhile_nil] at whole
  rw [leadOf, whole]

theorem leadOf_below_feed (passed above : Text) :
    leadOf (passed ++ '\n' :: above) = leadOf passed := by
  simp only [leadOf]
  congr 1
  induction passed with
  | nil => simp
  | cons c passed ih =>
      by_cases fed : c = '\n'
      · simp [fed]
      · simp [fed, ih]

/-- What stands above a line feed is nothing to the placeholders below it. -/
theorem substitute_below_feed
    (rest passed above : Text)
    (cuts : List Cut)
    (state : σ) :
    substitute ask deeper rest (passed ++ '\n' :: above) cuts state =
      substitute ask deeper rest passed cuts state := by
  induction cuts generalizing passed state with
  | nil => rfl
  | cons cut cuts ih =>
      have same : ∀ state,
          replacement ask deeper (cut.literal.reverse ++ (passed ++ '\n' :: above)) cut.name state =
            replacement ask deeper (cut.literal.reverse ++ passed) cut.name state := by
        intro state
        rw [← List.append_assoc]
        simp only [replacement, leadOf_below_feed]
      simp only [substitute, same]
      rw [← List.append_assoc, ← List.append_assoc, ← List.append_assoc, ih]

theorem fill_append
    (passed : Text)
    (a b : Template)
    (state : σ) :
    fill ask deeper passed (Template.append a b) state =
      let first := fill ask deeper passed a state
      let second := fill ask deeper (a.render.reverse ++ passed) b first.2
      (first.1 ++ second.1, second.2) := by
  obtain ⟨cuts, rest⟩ := a
  induction cuts generalizing passed state with
  | nil =>
      obtain ⟨cuts', rest'⟩ := b
      cases cuts' <;> simp [Template.append, Template.render, fill, substitute]
  | cons cut cuts ih =>
      have shifted : Template.append ⟨cut :: cuts, rest⟩ b =
          ⟨cut :: (Template.append ⟨cuts, rest⟩ b).cuts, (Template.append ⟨cuts, rest⟩ b).rest⟩ := by
        obtain ⟨cuts', rest'⟩ := b
        cases cuts' <;> rfl
      simp only [fill] at ih
      simp only [fill, shifted, substitute, ih]
      simp [Template.render]

theorem fill_literal (passed literal : Text) (state : σ) :
    fill ask deeper passed ⟨[], literal⟩ state = (literal, state) :=
  rfl

/-- A text is expanded line by line. -/
theorem expandLevels_append_feed
    (levels : Nat)
    (a b : Text)
    (state : σ) :
    expandLevels ask levels (a ++ '\n' :: b) state =
      let first := expandLevels ask levels a state
      let second := expandLevels ask levels b first.2
      (first.1 ++ '\n' :: second.1, second.2) := by
  cases levels with
  | zero => rfl
  | succ levels =>
      have below : ∀ passed state,
          fill ask (expandLevels ask levels) ('\n' :: passed) (Template.scan b) state =
            fill ask (expandLevels ask levels) [] (Template.scan b) state := by
        intro passed state
        exact substitute_below_feed ask _ _ [] passed _ state
      simp only [expandLevels]
      rw [Template.scan_append_feed]
      simp [fill_append, fill_literal, Template.render, below]

theorem expand_append_feed
    (a b : Text)
    (state : σ) :
    expand ask (a ++ '\n' :: b) state =
      let first := expand ask a state
      let second := expand ask b first.2
      (first.1 ++ '\n' :: second.1, second.2) := by
  simp only [expand_eq_expandLevels]
  exact expandLevels_append_feed ask depthLimit a b state

/-! ## Lines -/

theorem expand_nil (state : σ) : expand ask [] state = ([], state) :=
  expand_eq_of_runs (.rest depthLimit [] [] state)

theorem asked_nil (state : σ) : asked ask [] state = [] := by
  rw [asked, expand_nil]

/-- A text that stands on lines of its own is expanded before the text after it. -/
theorem expand_append
    {a : Text}
    (closed : a = [] ∨ a.getLast? = some '\n')
    (b : Text)
    (state : σ) :
    expand ask (a ++ b) state =
      let first := expand ask a state
      let second := expand ask b first.2
      (first.1 ++ second.1, second.2) := by
  rcases closed with rfl | fed
  · simp [expand_nil]
  · obtain ⟨front, rfl⟩ := List.getLast?_eq_some_iff.1 fed
    have alone := expand_append_feed ask front [] state
    simp only [expand_nil] at alone
    rw [List.append_assoc, List.singleton_append, expand_append_feed, alone]
    simp

theorem asked_append
    {a : Text}
    (closed : a = [] ∨ a.getLast? = some '\n')
    (b : Text)
    (state : σ) :
    asked ask (a ++ b) state = asked ask a state ++ asked ask b (expand ask a state).2 := by
  rw [asked, expand_append ask.logged closed]
  simp only [expand_logged, asked_eq_replies, List.nil_append]

/-- Expands texts one after the other with one resolver and joins the results. -/
def expandEach : List Text → σ → Expanded σ
  | [], state => ⟨[], [], state⟩
  | text :: texts, state =>
    let first := expand ask text state
    let others := expandEach texts first.2
    ⟨first.1 ++ others.text, asked ask text state ++ others.asked, others.state⟩

theorem expandEach_lines
    (template : Text)
    (state : σ) :
    expandEach ask (Block.lines template) state =
      let whole := expand ask template state
      ⟨whole.1, asked ask template state, whole.2⟩ := by
  induction template using Block.lineInduction generalizing state with
  | last a clean =>
      by_cases empty : a = []
      · subst empty
        simp [Block.lines, expandEach, expand_nil, asked_nil]
      · simp [Block.lines_of_no_feed clean empty, expandEach]
  | line a rest clean ih =>
      have closed : a ++ ['\n'] = [] ∨ (a ++ ['\n']).getLast? = some '\n' := .inr (by simp)
      have joined : a ++ '\n' :: rest = a ++ ['\n'] ++ rest := by simp
      rw [Block.lines_append_feed clean, joined, expand_append ask closed,
        asked_append ask closed]
      simp only [expandEach, ih]

/-- A template is expanded line by line with one resolver.  Wherever it is cut between two lines,
the first part gives the same text and asks the same names as alone, and the second part goes on
from the state that the first one leaves. -/
theorem expand_linewise
    (template : Text)
    (state : σ) :
    let whole := expand ask template state
    expandEach ask (Block.lines template) state =
        ⟨whole.1, asked ask template state, whole.2⟩ ∧
      ∀ a b, template = a ++ b → (a = [] ∨ a.getLast? = some '\n') →
        let first := expand ask a state
        let second := expand ask b first.2
        whole = (first.1 ++ second.1, second.2) ∧
          asked ask template state = asked ask a state ++ asked ask b first.2 := by
  refine ⟨expandEach_lines ask template state, ?_⟩
  rintro a b rfl closed
  exact ⟨expand_append ask closed b state, asked_append ask closed b state⟩

/-- A value of two lines on the first line, and a resolver that gives each value once. -/
theorem expand_linewise_queue :
    let next : Resolver (List Text) := fun _ left => (left.head?, left.tail)
    let state := ["1\n{y}".toList, "2\n3".toList]
    let a := " \t{x}.\n".toList
    let b := "{x}{z}\n".toList
    (a = [] ∨ a.getLast? = some '\n') ∧
      expand next (a ++ b) state =
        (" \t1\n \t2\n \t3.\n".toList ++ "{x}{z}\n".toList, []) ∧
      asked next (a ++ b) state = ["x".toList, "y".toList] ++ ["x".toList, "z".toList] := by
  intro next state a b
  have closed : a = [] ∨ a.getLast? = some '\n' := .inr (by decide)
  have first : expand next a state = (" \t1\n \t2\n \t3.\n".toList, []) := by
    rw [expand_eq_expandLevels]
    decide +kernel
  have firstNames : asked next a state = ["x".toList, "y".toList] := by
    rw [asked, expand_eq_expandLevels]
    decide +kernel
  have second : expand next b [] = ("{x}{z}\n".toList, []) := by
    rw [expand_eq_expandLevels]
    decide +kernel
  have secondNames : asked next b [] = ["x".toList, "z".toList] := by
    rw [asked, expand_eq_expandLevels]
    decide +kernel
  obtain ⟨text, names⟩ := (expand_linewise next (a ++ b) state).2 a b rfl closed
  refine ⟨closed, ?_, ?_⟩
  · simpa only [first, second] using text
  · simpa only [first, firstNames, secondNames] using names

end Stencil.Expansion
