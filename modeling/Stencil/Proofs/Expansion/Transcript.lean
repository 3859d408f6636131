import Stencil.Expansion.Report
import Stencil.Proofs.Expansion.Runs
import Stencil.Proofs.Placeholder.Names

/-!
Transcripts: the questions of an expansion with their answers, in order.  The names asked and the
report of an expansion are read off its transcript, and only names are asked.
-/
namespace Stencil

/-- A question put to a resolver, and its answer. -/
structure Reply where
  name : Text
  answer : Option Text
  deriving DecidableEq, Repr

/-- The names that were answered, as often as they were. -/
def answeredNames (notes : List Reply) : List Text :=
  (notes.filter fun reply => reply.answer.isSome).map Reply.name

/-- The names that were not answered, as often as they were not. -/
def unansweredNames (notes : List Reply) : List Text :=
  (notes.filter fun reply => reply.answer.isNone).map Reply.name

theorem mem_answeredNames
    {notes : List Reply}
    {name : Text} :
    name ∈ answeredNames notes ↔ ∃ value, ⟨name, some value⟩ ∈ notes := by
  simp only [answeredNames, List.mem_map, List.mem_filter, Option.isSome_iff_exists]
  constructor
  · rintro ⟨⟨_, _⟩, ⟨member, value, rfl⟩, rfl⟩
    exact ⟨value, member⟩
  · rintro ⟨value, member⟩
    exact ⟨_, ⟨member, value, rfl⟩, rfl⟩

theorem mem_unansweredNames
    {notes : List Reply}
    {name : Text} :
    name ∈ unansweredNames notes ↔ ⟨name, none⟩ ∈ notes := by
  simp only [unansweredNames, List.mem_map, List.mem_filter, Option.isNone_iff_eq_none]
  constructor
  · rintro ⟨⟨_, _⟩, ⟨member, rfl⟩, rfl⟩
    exact member
  · exact fun member => ⟨_, ⟨member, rfl⟩, rfl⟩

namespace Resolver

variable {σ : Type}

/-- Writes down every question with its answer, in order. -/
def noted (ask : Resolver σ) : Resolver (List Reply × σ) :=
  fun name state =>
    let reply := ask name state.2
    (reply.1, state.1 ++ [⟨name, reply.1⟩], reply.2)

theorem answers_append
    {ask : Resolver σ}
    {names later : List Text}
    {before middle after : σ}
    {first second : List (Option Text)}
    (asked : ask.answers names before = (first, middle))
    (askedLater : ask.answers later middle = (second, after)) :
    ask.answers (names ++ later) before = (first ++ second, after) := by
  induction names generalizing before first with
  | nil =>
      cases asked
      exact askedLater
  | cons name names ih =>
      cases asked
      rw [List.cons_append, answers, ih rfl]
      rfl

theorem Shows.answers
    {τ : Type}
    {view : τ → σ}
    {finer : Resolver τ}
    {ask : Resolver σ}
    (shows : Shows view finer ask)
    (names : List Text)
    (state : τ) :
    ask.answers names (view state) =
      ((finer.answers names state).1, view (finer.answers names state).2) := by
  induction names generalizing state with
  | nil => rfl
  | cons name names ih => simp only [Resolver.answers, shows name state, ih]

theorem Shows.logged
    {τ : Type}
    {view : τ → σ}
    {finer : Resolver τ}
    {ask : Resolver σ}
    (shows : Shows view finer ask) :
    Shows (fun state : List Text × τ => (state.1, view state.2)) finer.logged ask.logged :=
  fun name state => by simp only [Resolver.logged, shows name state.2]

theorem notes_of_noted
    {ask : Resolver σ}
    {name : Text}
    {state after : List Reply × σ}
    {answer : Option Text}
    (replied : ask.noted name state = (answer, after)) :
    after.1 = state.1 ++ [⟨name, answer⟩] := by
  cases replied
  rfl

end Resolver

namespace Expansion

open Placeholder

variable {σ : Type} (ask : Resolver σ)

/-- What a resolver is asked while a template is expanded, and what it answers, in order. -/
def replies (template : Text) (state : σ) : List Reply :=
  (expand ask.noted template ([], state)).2.1

/-! ## What is read off a transcript -/

theorem expand_noted
    (template : Text)
    (notes : List Reply)
    (state : σ) :
    expand ask.noted template (notes, state) =
      let plain := expand ask template state
      (plain.1, notes ++ replies ask template state, plain.2) := by
  have showsState : Resolver.Shows Prod.snd ask.noted ask := fun _ _ => rfl
  have showsNotes :
      Resolver.Shows (fun s : List Reply × σ => (notes ++ s.1, s.2)) ask.noted ask.noted := by
    intro name state
    simp [Resolver.noted]
  have plain := expand_view showsState template ([], state)
  have whole := expand_view showsNotes template ([], state)
  simp only [List.append_nil] at plain whole
  rw [whole, plain]
  rfl

theorem expand_logged
    (template : Text)
    (log : List Text)
    (state : σ) :
    expand ask.logged template (log, state) =
      let plain := expand ask template state
      (plain.1, log ++ (replies ask template state).map Reply.name, plain.2) := by
  have shows :
      Resolver.Shows (fun s : List Reply × σ => (log ++ s.1.map Reply.name, s.2)) ask.noted
        ask.logged := by
    intro name state
    simp [Resolver.noted, Resolver.logged]
  have viewed := expand_view shows template ([], state)
  simp only [List.map_nil, List.append_nil] at viewed
  rw [viewed, expand_noted]
  rfl

theorem asked_eq_replies
    (template : Text)
    (state : σ) :
    asked ask template state = (replies ask template state).map Reply.name := by
  rw [asked, expand_logged]
  rfl

/-- The tally of a transcript. -/
def Tally.ofReplies (notes : List Reply) : Tally :=
  notes.foldl (fun t reply => t.count reply.name reply.answer.isSome) ⟨[], []⟩

theorem report_eq_replies
    (template : Text)
    (state : σ) :
    report ask template state =
      let plain := expand ask template state
      let tally := Tally.ofReplies (replies ask template state)
      (⟨template, plain.1, tally.resolved, tally.unresolved⟩, plain.2) := by
  have shows :
      Resolver.Shows (fun s : List Reply × σ => (Tally.ofReplies s.1, s.2)) ask.noted
        (tallied ask) := by
    intro name state
    simp [Resolver.noted, tallied, Tally.ofReplies]
  have viewed := expand_view shows template ([], state)
  have first : Tally.ofReplies [] = ⟨[], []⟩ := rfl
  simp only [first, expand_noted] at viewed
  simp only [report, viewed]
  rfl

/-! ## The two lists of a report -/

/-- A tally lists the names that were answered, and those that were not. -/
theorem Tally.ofReplies_eq (notes : List Reply) :
    ofReplies notes = ⟨distinct (answeredNames notes), distinct (unansweredNames notes)⟩ := by
  induction notes using List.reverseRecOn with
  | nil => rfl
  | append_singleton notes reply ih =>
      have counted : ofReplies (notes ++ [reply]) =
          (ofReplies notes).count reply.name reply.answer.isSome := by
        simp [ofReplies]
      rw [counted, ih]
      obtain ⟨name, _ | value⟩ := reply
      · simp [count, answeredNames, unansweredNames, distinct_concat]
      · simp [count, answeredNames, unansweredNames, distinct_concat]

theorem mem_unresolved_report
    {template name : Text}
    {state : σ} :
    name ∈ (report ask template state).1.unresolved ↔
      ⟨name, none⟩ ∈ replies ask template state := by
  rw [report_eq_replies, Tally.ofReplies_eq]
  exact mem_distinct.trans mem_unansweredNames

/-! ## How a transcript grows -/

variable {ask}

theorem notes_subset_of_runs
    {levels : Nat}
    {passed : Text}
    {t : Template}
    {state : List Reply × σ}
    {result : Text × List Reply × σ}
    (runs : Runs ask.noted levels passed t state result) :
    state.1 ⊆ result.2.1 := by
  have grow : ∀ {name : Text} {state after : List Reply × σ} {answer : Option Text},
      ask.noted name state = (answer, after) → state.1 ⊆ after.1 := by
    intro name state after answer replied
    rw [Resolver.notes_of_noted replied]
    exact List.subset_append_left _ _
  induction runs with
  | rest => exact List.Subset.refl _
  | kept unanswered _ ih => exact List.Subset.trans (grow unanswered) ih
  | replaced answered _ _ ihInner ih =>
      exact List.Subset.trans (grow answered) (List.Subset.trans ihInner ih)

theorem isName_of_mem_opened
    {levels : Nat}
    {text : Text}
    {cut : Cut}
    (member : cut ∈ (opened levels text).cuts) :
    isName cut.name := by
  cases levels with
  | zero => cases member
  | succ levels => exact Template.isName_of_mem_cuts member

/-- What holds of every answer to a name holds of every reply. -/
theorem forall_reply_of_runs
    {holds : Reply → Prop}
    (answers : ∀ name state, isName name → holds ⟨name, (ask name state).1⟩)
    {levels : Nat}
    {passed : Text}
    {t : Template}
    {state : List Reply × σ}
    {result : Text × List Reply × σ}
    (runs : Runs ask.noted levels passed t state result)
    (named : ∀ cut ∈ t.cuts, isName cut.name)
    (before : ∀ reply ∈ state.1, holds reply) :
    ∀ reply ∈ result.2.1, holds reply := by
  have asking : ∀ {cut : Cut} {cuts : List Cut} {state after : List Reply × σ}
      {answer : Option Text}, ask.noted cut.name state = (answer, after) →
      (∀ other ∈ cut :: cuts, isName other.name) → (∀ reply ∈ state.1, holds reply) →
      ∀ reply ∈ after.1, holds reply := by
    intro cut cuts state after answer replied named before reply member
    rw [Resolver.notes_of_noted replied, List.mem_append, List.mem_singleton] at member
    rcases member with earlier | rfl
    · exact before reply earlier
    · cases replied
      exact answers cut.name state.2 (named cut List.mem_cons_self)
  induction runs with
  | rest => exact before
  | @kept _ _ _ cut _ _ _ _ unanswered _ ih =>
      exact ih (fun other member => named other (List.mem_cons_of_mem cut member))
        (asking unanswered named before)
  | @replaced _ _ _ _ cut _ _ _ _ _ answered _ _ ihInner ih =>
      have inner := ihInner (fun _ member => isName_of_mem_opened member)
        (asking answered named before)
      exact ih (fun other member => named other (List.mem_cons_of_mem cut member)) inner

theorem forall_mem_replies
    {holds : Reply → Prop}
    (answers : ∀ name state, isName name → holds ⟨name, (ask name state).1⟩)
    (template : Text)
    (state : σ) :
    ∀ reply ∈ replies ask template state, holds reply :=
  forall_reply_of_runs answers (runs_expand ask.noted template ([], state))
    (fun _ inCuts => Template.isName_of_mem_cuts inCuts) fun _ none => by cases none

theorem isName_of_mem_replies
    {template : Text}
    {state : σ}
    {reply : Reply}
    (member : reply ∈ replies ask template state) :
    isName reply.name := by
  have named : ∀ other ∈ replies ask template state, isName other.name :=
    forall_mem_replies (fun _ _ named => named) template state
  exact named reply member

/-! ## The questions of an expansion in a row -/

/-- The questions of a run, put again one after the other, get the same answers and lead to the same
state. -/
theorem answers_of_runs
    {levels : Nat}
    {passed : Text}
    {t : Template}
    {state : List Reply × σ}
    {result : Text × List Reply × σ}
    (runs : Runs ask.noted levels passed t state result) :
    ∃ notes, result.2.1 = state.1 ++ notes ∧
      ask.answers (notes.map Reply.name) state.2 = (notes.map Reply.answer, result.2.2) := by
  have asking : ∀ {name : Text} {state after : List Reply × σ} {answer : Option Text},
      ask.noted name state = (answer, after) →
      after.1 = state.1 ++ [⟨name, answer⟩] ∧ ask.answers [name] state.2 = ([answer], after.2) := by
    intro name state after answer replied
    refine ⟨Resolver.notes_of_noted replied, ?_⟩
    cases replied
    rfl
  induction runs with
  | rest levels passed rest state => exact ⟨[], (List.append_nil _).symm, rfl⟩
  | @kept _ _ _ cut _ _ _ _ unanswered _ ih =>
      obtain ⟨noted, first⟩ := asking unanswered
      obtain ⟨notes, grown, later⟩ := ih
      refine ⟨⟨cut.name, none⟩ :: notes, ?_, ?_⟩
      · rw [grown, noted, List.append_assoc, List.singleton_append]
      · exact Resolver.answers_append first later
  | @replaced _ _ _ value cut _ _ _ _ _ answered _ _ ihInner ih =>
      obtain ⟨noted, first⟩ := asking answered
      obtain ⟨inside, grownInside, inner⟩ := ihInner
      obtain ⟨notes, grown, later⟩ := ih
      refine ⟨⟨cut.name, some value⟩ :: (inside ++ notes), ?_, ?_⟩
      · rw [grown, grownInside, noted, List.append_assoc, List.append_assoc,
          List.singleton_append]
      · rw [List.map_cons, List.map_cons, List.map_append, List.map_append]
        exact Resolver.answers_append first (Resolver.answers_append inner later)

theorem answers_asked
    (ask : Resolver σ)
    (template : Text)
    (state : σ) :
    (ask.answers (asked ask template state) state).2 = (expand ask template state).2 := by
  obtain ⟨notes, grown, answers⟩ := answers_of_runs (runs_expand ask.noted template ([], state))
  have noted : notes = replies ask template state := grown.symm
  rw [noted] at answers
  rw [asked_eq_replies, answers, expand_noted]

theorem asked_view
    {τ : Type}
    {view : τ → σ}
    {finer : Resolver τ}
    (shows : Resolver.Shows view finer ask)
    (template : Text)
    (state : τ) :
    asked ask template (view state) = asked finer template state := by
  have viewed := expand_view shows.logged template ([], state)
  rw [asked, viewed]
  rfl

end Expansion

end Stencil
