import Stencil.Proofs.Expansion.Transcript

/-!
What a report says of the expansion that it reports.  The names of a report are those of the
transcript, by their answers, so a resolver whose answers depend on the name alone has every name
that it is asked in one list or the other.
-/
namespace Stencil.Expansion

open Placeholder

variable {σ τ : Type}

/-- A report lists the names of a transcript by their answers, each in the order of its first answer
of that kind, and is complete when every question was answered. -/
structure Report.Lists (r : Report) (notes : List Reply) : Prop where
  resolved : IsRoll r.resolved (answeredNames notes)
  unresolved : IsRoll r.unresolved (unansweredNames notes)
  complete : r.complete = true ↔ ∀ reply ∈ notes, reply.answer ≠ none

theorem Report.complete_iff
    {r : Report}
    {notes : List Reply}
    (unresolved : IsRoll r.unresolved (unansweredNames notes)) :
    r.complete = true ↔ ∀ reply ∈ notes, reply.answer ≠ none := by
  rw [Report.complete, List.isEmpty_iff, List.eq_nil_iff_forall_not_mem]
  simp only [unresolved.same, mem_unansweredNames]
  constructor
  · rintro answered ⟨name, answer⟩ member rfl
    exact answered name member
  · exact fun answered name member => answered _ member rfl

theorem report_lists
    (ask : Resolver σ)
    (template : Text)
    (state : σ) :
    (report ask template state).1.Lists (replies ask template state) := by
  rw [report_eq_replies, Tally.ofReplies_eq]
  have unresolved := isRoll_distinct (unansweredNames (replies ask template state))
  exact ⟨isRoll_distinct _, unresolved, Report.complete_iff unresolved⟩

theorem report_view
    {view : τ → σ}
    {finer : Resolver τ}
    {ask : Resolver σ}
    (shows : Resolver.Shows view finer ask)
    (template : Text)
    (state : τ) :
    report ask template (view state) =
      ((report finer template state).1, view (report finer template state).2) := by
  have counted :
      Resolver.Shows (fun s : Tally × τ => (s.1, view s.2)) (tallied finer) (tallied ask) := by
    intro name state
    simp only [tallied, shows name state.2]
  have viewed := expand_view counted template (⟨[], []⟩, state)
  simp only [report, viewed]

/-- A resolver that writes down its questions is reported on like the resolver itself. -/
theorem report_logged
    (ask : Resolver σ)
    (template : Text)
    (state : σ) :
    report ask.logged template ([], state) =
      ((report ask template state).1, asked ask template state, (expand ask template state).2) := by
  have shows : Resolver.Shows Prod.snd ask.logged ask := fun _ _ => rfl
  have same : (report ask template state).1 = (report ask.logged template ([], state)).1 :=
    congrArg Prod.fst (report_view shows template ([], state))
  have after : (report ask.logged template ([], state)).2 =
      (expand ask.logged template ([], state)).2 := by
    rw [report_eq_replies]
  rw [same]
  refine Prod.ext rfl (after.trans ?_)
  rw [expand_logged, asked_eq_replies, List.nil_append]

/-- A name that is always answered alike is on one list only. -/
theorem report_of_pure
    {ask : Resolver σ}
    {answer : Text → Option Text}
    (pure : ∀ name state, (ask name state).1 = answer name)
    (template : Text)
    (state : σ) :
    let r := (report ask template state).1
    r.resolved.Disjoint r.unresolved ∧
      ∀ name, name ∈ r.resolved ∨ name ∈ r.unresolved ↔ name ∈ asked ask template state := by
  intro r
  have lists : r.Lists (replies ask template state) := report_lists ask template state
  have alike : ∀ reply ∈ replies ask template state, reply.answer = answer reply.name :=
    forall_mem_replies (fun name state _ => pure name state) template state
  constructor
  · intro name resolved unresolved
    obtain ⟨value, answered⟩ := mem_answeredNames.1 ((lists.resolved.same name).1 resolved)
    have unanswered := mem_unansweredNames.1 ((lists.unresolved.same name).1 unresolved)
    cases (alike _ answered).trans (alike _ unanswered).symm
  · intro name
    rw [lists.resolved.same, lists.unresolved.same, mem_answeredNames, mem_unansweredNames,
      asked_eq_replies, List.mem_map]
    constructor
    · rintro (⟨value, member⟩ | member)
      · exact ⟨_, member, rfl⟩
      · exact ⟨_, member, rfl⟩
    · rintro ⟨⟨name, _ | value⟩, member, rfl⟩
      · exact .inr member
      · exact .inl ⟨value, member⟩

/-- The report on a template agrees with its expansion. -/
theorem report_agrees_with_run
    (ask : Resolver σ)
    (template : Text)
    (state : σ) :
    let whole := expand ask template state
    let names := asked ask template state
    let notes := replies ask template state
    let r := (report ask template state).1
    report ask template state = (⟨template, whole.1, r.resolved, r.unresolved⟩, whole.2) ∧
      report ask.logged template ([], state) = (r, names, whole.2) ∧
      notes.map Reply.name = names ∧
      r.Lists notes ∧
      ∀ answer : Text → Option Text, (∀ name state, (ask name state).1 = answer name) →
        r.resolved.Disjoint r.unresolved ∧
          ∀ name, name ∈ r.resolved ∨ name ∈ r.unresolved ↔ name ∈ names := by
  refine ⟨?_, report_logged ask template state, (asked_eq_replies ask template state).symm,
    report_lists ask template state, fun _ pure => report_of_pure pure template state⟩
  simp only [report_eq_replies]

/-- A queue that runs dry puts names on both lists, and a table puts no name on both, though it
counts its questions. -/
theorem report_agrees_with_run_queue :
    let next : Resolver (List Text) := fun _ left => (left.head?, left.tail)
    let values : Table Text := [("x".toList, "1{y}\n2".toList)]
    let counting : Resolver Nat := fun name count => (values.get? name, count + 1)
    let template := " {x}{y}{x}".toList
    let r := (report counting template 0).1
    report next template ["a{y}".toList, "b".toList] =
        (⟨template, " ab{y}{x}".toList, ["x".toList, "y".toList], ["y".toList, "x".toList]⟩, []) ∧
      (∀ name count, (counting name count).1 = values.get? name) ∧
      (r.resolved, r.unresolved) = (["x".toList], ["y".toList]) ∧
      r.resolved.Disjoint r.unresolved ∧
        ∀ name, name ∈ r.resolved ∨ name ∈ r.unresolved ↔ name ∈ asked counting template 0 := by
  intro next values counting template r
  have pure : ∀ name count, (counting name count).1 = values.get? name := fun _ _ => rfl
  obtain ⟨_, _, _, _, apart⟩ := report_agrees_with_run counting template 0
  refine ⟨?_, pure, ?_, apart values.get? pure⟩
  · simp only [report, expand_eq_expandLevels]
    decide +kernel
  · simp only [r, report, expand_eq_expandLevels]
    decide +kernel

/-! ## Names that are not known -/

section Unknown

variable {ask : Resolver σ}

theorem runs_of_unknown
    (levels : Nat)
    (passed rest : Text)
    {cuts : List Cut}
    (unknown : ∀ cut ∈ cuts, ∀ state, (ask cut.name state).1 = none)
    (notes : List Reply)
    (state : σ) :
    ∃ after, Runs ask.noted (levels + 1) passed ⟨cuts, rest⟩ (notes, state)
      (Template.render ⟨cuts, rest⟩, notes ++ cuts.map (fun cut => ⟨cut.name, none⟩), after) := by
  induction cuts generalizing passed notes state with
  | nil =>
      rw [List.map_nil, List.append_nil]
      exact ⟨state, .rest _ passed rest _⟩
  | cons cut cuts ih =>
      rw [List.forall_mem_cons] at unknown
      let reply : Reply := ⟨cut.name, none⟩
      have unanswered : ask.noted cut.name (notes, state) =
          (none, notes ++ [reply], (ask cut.name state).2) := by
        simp only [Resolver.noted, unknown.1, reply]
      obtain ⟨after, later⟩ := ih ((wrap cut.name).reverse ++ (cut.literal.reverse ++ passed))
        unknown.2 (notes ++ [reply]) (ask cut.name state).2
      have kept := Runs.kept unanswered later
      rw [List.append_assoc] at kept
      refine ⟨after, ?_⟩
      simpa [Template.render, reply] using kept

/-- A resolver that knows none of the names in a template leaves it as it is, and is asked for the
names of all its placeholders. -/
theorem expand_of_unknown
    {template : Text}
    (unknown : ∀ name ∈ namesIn template, ∀ state, (ask name state).1 = none)
    (state : σ) :
    (expand ask template state).1 = template ∧
      replies ask template state =
        (Template.scan template).names.map fun name => ⟨name, none⟩ := by
  have deep : 1023 + 1 = depthLimit := rfl
  have unanswered : ∀ cut ∈ (Template.scan template).cuts, ∀ state,
      (ask cut.name state).1 = none := by
    intro cut member
    exact unknown cut.name (mem_distinct.2 (List.mem_map_of_mem member))
  obtain ⟨after, runs⟩ := runs_of_unknown 1023 [] (Template.scan template).rest unanswered [] state
  rw [deep] at runs
  have run := expand_eq_of_runs runs
  rw [expand_noted, Template.render_scan, List.nil_append, List.nil_append] at run
  obtain ⟨text, others⟩ := Prod.mk.inj run
  refine ⟨text, (Prod.mk.inj others).1.trans ?_⟩
  rw [Template.names, List.map_map]
  rfl

theorem report_of_unknown
    {template : Text}
    (unknown : ∀ name ∈ namesIn template, ∀ state, (ask name state).1 = none)
    (state : σ) :
    (report ask template state).1 = ⟨template, template, [], namesIn template⟩ := by
  obtain ⟨text, notes⟩ := expand_of_unknown unknown state
  have answered : answeredNames (replies ask template state) = [] := by
    simp [notes, answeredNames]
  have unanswered : unansweredNames (replies ask template state) =
      (Template.scan template).names := by
    simp [notes, unansweredNames, List.filter_map, Function.comp_def]
  simp only [report_eq_replies, Tally.ofReplies_eq, answered, unanswered, text]
  rfl

end Unknown

/-! ## Resolvers that know no name -/

section Silent

variable {ask : Resolver σ} (silent : ∀ name state, (ask name state).1 = none)

include silent

/-- A resolver that knows no name leaves a template as it is, and is asked for the names of all its
placeholders. -/
theorem expand_of_silent
    (template : Text)
    (state : σ) :
    (expand ask template state).1 = template ∧
      replies ask template state =
        (Template.scan template).names.map fun name => ⟨name, none⟩ :=
  expand_of_unknown (fun name _ => silent name) state

theorem report_of_silent
    (template : Text)
    (state : σ) :
    (report ask template state).1 = ⟨template, template, [], namesIn template⟩ :=
  report_of_unknown (fun name _ => silent name) state

end Silent

end Stencil.Expansion
