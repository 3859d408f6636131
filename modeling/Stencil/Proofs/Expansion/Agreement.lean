import Stencil.Proofs.Expansion.Transcript

/-!
Only the names that are asked matter.  Which names are asked depends on the answers before them, so
two resolvers are followed step by step: as long as the transcript of the one holds no name on which
they differ, the other one has written the same transcript.
-/
namespace Stencil

/-- Answers a name with the text form of its value, when it has one. -/
def Resolver.ofValues {σ : Type} (value : Text → Value) : Resolver σ :=
  pure fun name => (value name).answer?

namespace Expansion

open Placeholder

variable {σ : Type} {f g : Text → Option Text}

theorem noted_pure_congr
    {name : Text}
    {state after : List Reply × σ}
    {answer : Option Text}
    (replied : (Resolver.pure f).noted name state = (answer, after))
    (agree : f name = g name) :
    (Resolver.pure g).noted name state = (answer, after) := by
  rw [← replied]
  simp [Resolver.noted, Resolver.pure, agree]

/-- A resolver that agrees with another one on the transcript of a run takes the same run. -/
theorem Runs.lockstep
    {levels : Nat}
    {passed : Text}
    {t : Template}
    {state : List Reply × σ}
    {result : Text × List Reply × σ}
    (runs : Runs (Resolver.pure f).noted levels passed t state result)
    (agree : ∀ reply ∈ result.2.1, f reply.name = g reply.name) :
    Runs (Resolver.pure g).noted levels passed t state result := by
  have latest : ∀ {name : Text} {answer : Option Text} {state after : List Reply × σ},
      (Resolver.pure f).noted name state = (answer, after) → ⟨name, answer⟩ ∈ after.1 := by
    intro name answer state after replied
    rw [Resolver.notes_of_noted replied]
    exact List.mem_append_right _ List.mem_cons_self
  induction runs with
  | rest levels passed rest state => exact .rest levels passed rest state
  | kept unanswered later ih =>
      have same := agree _ (notes_subset_of_runs later (latest unanswered))
      exact .kept (noted_pure_congr unanswered same) (ih agree)
  | replaced answered inner later ihInner ih =>
      have grown := notes_subset_of_runs later
      have same := agree _ (grown (notes_subset_of_runs inner (latest answered)))
      exact .replaced (noted_pure_congr answered same)
        (ihInner fun reply member => agree reply (grown member)) (ih agree)

theorem expand_noted_congr
    {template : Text}
    {state : σ}
    (agree : ∀ name ∈ asked (.pure f) template state, f name = g name) :
    expand (Resolver.pure g).noted template ([], state) =
      expand (Resolver.pure f).noted template ([], state) := by
  refine expand_eq_of_runs (Runs.lockstep (runs_expand _ template ([], state)) ?_)
  intro reply member
  have asking : reply.name ∈ asked (.pure f) template state := by
    rw [asked_eq_replies]
    exact List.mem_map_of_mem member
  exact agree reply.name asking

/-- Two resolvers whose values have the same text forms on the names that the expansion with one of
them asks give the same text, ask the same names in the same order and lead to the same report. -/
theorem expansion_depends_on_asked
    {f g : Text → Value}
    {template : Text}
    {state : σ}
    (agree : ∀ name ∈ asked (.ofValues f) template state, (f name).answer? = (g name).answer?) :
    asked (.ofValues g) template state = asked (.ofValues f) template state ∧
      expand (.ofValues g) template state = expand (.ofValues f) template state ∧
      report (.ofValues g) template state = report (.ofValues f) template state := by
  have noted : expand (Resolver.ofValues g).noted template ([], state) =
      expand (Resolver.ofValues f).noted template ([], state) := expand_noted_congr agree
  have sameReplies : replies (.ofValues g) template state = replies (.ofValues f) template state :=
    congrArg (fun result => result.2.1) noted
  have sameExpansion :
      expand (.ofValues g) template state = expand (.ofValues f) template state := by
    simp only [expand_noted] at noted
    have sameText := congrArg Prod.fst noted
    have sameState := congrArg (fun result => result.2.2) noted
    exact Prod.ext sameText sameState
  refine ⟨?_, sameExpansion, ?_⟩
  · rw [asked_eq_replies, asked_eq_replies, sameReplies]
  · rw [report_eq_replies, report_eq_replies, sameReplies, sameExpansion]

/-- A number and its digits, one more name that is asked, and one that is not. -/
theorem expansion_depends_on_asked_digits :
    let first : Table Value :=
      [("n".toList, .integer 3), ("v".toList, .text "\n[{n}]\n{x}\n".toList),
        ("secret".toList, .text "{v}".toList)]
    let second : Table Value :=
      [("n".toList, .text "3".toList), ("v".toList, .text "\n[{n}]\n{x}\n".toList),
        ("secret".toList, .flag true)]
    let f : Text → Value := fun name => (first.get? name).getD .null
    let g : Text → Value := fun name => (second.get? name).getD .null
    let template := "  {v} {n}".toList
    (∀ name ∈ asked (.ofValues f) template (), (f name).answer? = (g name).answer?) ∧
      asked (.ofValues g) template () = ["v".toList, "n".toList, "x".toList, "n".toList] ∧
      (report (.ofValues g) template ()).1 =
        ⟨template, "  [3]\n  {x} 3".toList, ["v".toList, "n".toList], ["x".toList]⟩ := by
  intro first second f g template
  have names : asked (.ofValues f) template () =
      ["v".toList, "n".toList, "x".toList, "n".toList] := by
    rw [asked, expand_eq_expandLevels]
    decide +kernel
  have agree : ∀ name ∈ asked (.ofValues f) template (), (f name).answer? = (g name).answer? := by
    rw [names]
    decide +kernel
  have reported : (report (.ofValues f) template ()).1 =
      ⟨template, "  [3]\n  {x} 3".toList, ["v".toList, "n".toList], ["x".toList]⟩ := by
    simp only [report, expand_eq_expandLevels]
    decide +kernel
  obtain ⟨sameNames, _, sameReport⟩ := expansion_depends_on_asked agree
  exact ⟨agree, sameNames.trans names, sameReport ▸ reported⟩

end Expansion

end Stencil
