import Stencil.Proofs.Expansion.Transcript
import Stencil.Source.Choice

/-!
Choices from left to right.  A choice among choices is the choice among all their sources, so only
the order of the sources matters, and every question is a round of them.
-/
namespace Stencil

theorem Value.answer?_of_ne_null
    {v : Value}
    (data : v ≠ .null) :
    v.answer? = some v.toText := by
  cases v with
  | null => exact absurd rfl data
  | _ => rfl

namespace Resolver

variable {α σ τ : Type}

/-! ## Choices inside choices -/

theorem firstOf_append
    (first second : List (Resolver σ))
    (name : Text)
    (state : σ) :
    firstOf (first ++ second) name state =
      match firstOf first name state with
      | (some answer, after) => (some answer, after)
      | (none, after) => firstOf second name after := by
  induction first generalizing state with
  | nil => rfl
  | cons ask first ih =>
      rw [List.cons_append, firstOf, firstOf]
      rcases ask name state with ⟨_ | answer, after⟩
      · exact ih after
      · rfl

theorem firstOf_firstOf (first second : List (Resolver σ)) :
    firstOf (firstOf first :: second) = firstOf (first ++ second) := by
  funext name state
  rw [firstOf_append]
  rfl

theorem firstOf_cons_congr
    (ask : Resolver σ)
    {second second' : List (Resolver σ)}
    (same : firstOf second = firstOf second') :
    firstOf (ask :: second) = firstOf (ask :: second') := by
  funext name state
  rw [firstOf, firstOf, same]

theorem firstOf_singleton (ask : Resolver σ) : firstOf [ask] = ask := by
  funext name state
  rw [firstOf]
  rcases ask name state with ⟨_ | answer, after⟩ <;> rfl

/-! ## Finer resolvers -/

theorem Shows.firstOf
    {view : τ → σ}
    {finer : α → Resolver τ}
    {ask : α → Resolver σ}
    (shows : ∀ a, Shows view (finer a) (ask a))
    (as : List α) :
    Shows view (.firstOf (as.map finer)) (.firstOf (as.map ask)) := by
  induction as with
  | nil => exact fun _ _ => rfl
  | cons a as ih =>
      intro name state
      rw [List.map_cons, List.map_cons, Resolver.firstOf, Resolver.firstOf, shows a name state]
      rcases finer a name state with ⟨_ | answer, after⟩
      · exact ih name after
      · rfl

end Resolver

namespace Choice

variable {α τ : Type}

mutual

theorem resolver_eq_firstOf (ask : α → Resolver τ) :
    ∀ choice : Choice α, choice.resolver ask = .firstOf (choice.sources.map ask)
  | source a => (Resolver.firstOf_singleton (ask a)).symm
  | among members => firstOf_resolvers ask members

theorem firstOf_resolvers (ask : α → Resolver τ) :
    ∀ members : List (Choice α),
      Resolver.firstOf (resolvers ask members) = .firstOf ((allSources members).map ask)
  | [] => rfl
  | member :: members => by
      rw [resolvers, allSources, List.map_append, resolver_eq_firstOf ask member,
        ← Resolver.firstOf_firstOf]
      exact Resolver.firstOf_cons_congr _ (firstOf_resolvers ask members)

end

theorem allSources_append (first second : List (Choice α)) :
    allSources (first ++ second) = allSources first ++ allSources second := by
  induction first with
  | nil => rfl
  | cons member first ih => rw [List.cons_append, allSources, allSources, ih, List.append_assoc]

theorem Spliced.sources_eq
    {choice other : Choice α}
    (spliced : Spliced choice other) :
    other.sources = choice.sources := by
  induction spliced with
  | here before members after =>
      simp only [sources, allSources, allSources_append, List.append_assoc]
  | inside before after _ ih =>
      simp only [sources, allSources, allSources_append, ih]

end Choice

namespace Supplier

variable {ι σ : Type}

/-! ## Rounds -/

theorem Round.skip
    {s : Supplier ι σ}
    {others asked : List (Supplier ι σ)}
    {name : Text}
    {before middle after : σ}
    {answer : Option Text}
    (silent : s.value name before = (.null, middle))
    (round : Round others name middle asked answer after) :
    Round (s :: others) name before (s :: asked) answer after := by
  cases round with
  | answered parts quiet replied data =>
      exact .answered (congrArg (s :: ·) parts) (.cons silent quiet) replied data
  | unanswered quiet => exact .unanswered (.cons silent quiet)

theorem logged_eq
    {s : Supplier ι σ}
    {name : Text}
    {before after : σ}
    {value : Value}
    (reply : s.value name before = (value, after))
    (log : List (ι × Text)) :
    s.logged name (log, before) = (value.answer?, log ++ [s.call name], after) := by
  simp only [logged, resolver, reply]

/-- A question to resolvers in order is a round. -/
theorem firstOf_round
    (suppliers : List (Supplier ι σ))
    (name : Text)
    (log : List (ι × Text))
    (before : σ) :
    ∃ asked answer after,
      Resolver.firstOf (suppliers.map logged) name (log, before) =
        (answer, log ++ asked.map (call name), after) ∧
      Round suppliers name before asked answer after := by
  induction suppliers generalizing log before with
  | nil =>
      refine ⟨[], none, before, ?_, .unanswered (.nil before)⟩
      rw [List.map_nil, List.map_nil, List.append_nil, Resolver.firstOf]
  | cons s others ih =>
      rcases reply : s.value name before with ⟨value, middle⟩
      rw [List.map_cons, Resolver.firstOf, logged_eq reply]
      by_cases silent : value = .null
      · subst silent
        obtain ⟨asked, answer, after, answered, round⟩ := ih (log ++ [s.call name]) middle
        refine ⟨s :: asked, answer, after, ?_, round.skip reply⟩
        rw [List.append_assoc] at answered
        exact answered
      · rw [Value.answer?_of_ne_null silent]
        exact ⟨[s], some value.toText, middle, rfl, .answered rfl (.nil before) reply silent⟩

theorem answers_rounds
    (suppliers : List (Supplier ι σ))
    (names : List Text)
    (log : List (ι × Text))
    (before : σ) :
    ∃ answers calls after,
      Resolver.answers (.firstOf (suppliers.map logged)) names (log, before) =
        (answers, log ++ calls, after) ∧
      Rounds suppliers names before answers calls after := by
  induction names generalizing log before with
  | nil =>
      refine ⟨[], [], before, ?_, .nil before⟩
      rw [Resolver.answers, List.append_nil]
  | cons name names ih =>
      obtain ⟨asked, answer, middle, reply, round⟩ := firstOf_round suppliers name log before
      obtain ⟨answers, calls, after, later, rounds⟩ := ih (log ++ asked.map (call name)) middle
      refine ⟨answer :: answers, asked.map (call name) ++ calls, after, ?_, .cons round rounds⟩
      rw [Resolver.answers, reply, later, List.append_assoc]

/-! ## Logs -/

theorem shows_state (s : Supplier ι σ) : Resolver.Shows Prod.snd s.logged s.resolver :=
  fun _ _ => rfl

/-- What is already in the log stays in front of it and has no effect. -/
theorem shows_log
    (log : List (ι × Text))
    (s : Supplier ι σ) :
    Resolver.Shows (fun state : List (ι × Text) × σ => (log ++ state.1, state.2)) s.logged
      s.logged :=
  fun name state => by simp only [logged, List.append_assoc]

section Logs

variable {suppliers : List (Supplier ι σ)} {before after : σ} {calls : List (ι × Text)}

/-- What is answered with an empty log is answered without a log and with any other one. -/
theorem answers_of_logged
    {names : List Text}
    {answers : List (Option Text)}
    (replied : Resolver.answers (.firstOf (suppliers.map logged)) names ([], before) =
      (answers, calls, after)) :
    Resolver.answers (.firstOf (suppliers.map resolver)) names before = (answers, after) ∧
      ∀ log, Resolver.answers (.firstOf (suppliers.map logged)) names (log, before) =
        (answers, log ++ calls, after) := by
  refine ⟨?_, fun log => ?_⟩
  · have shown := (Resolver.Shows.firstOf shows_state suppliers).answers names ([], before)
    rw [replied] at shown
    exact shown
  · have shown := (Resolver.Shows.firstOf (shows_log log) suppliers).answers names ([], before)
    rw [replied, List.append_nil] at shown
    exact shown

theorem expand_of_logged
    {template text : Text}
    (expanded : Expansion.expand (.firstOf (suppliers.map logged)) template ([], before) =
      (text, calls, after)) :
    Expansion.expand (.firstOf (suppliers.map resolver)) template before = (text, after) ∧
      ∀ log, Expansion.expand (.firstOf (suppliers.map logged)) template (log, before) =
        (text, log ++ calls, after) := by
  refine ⟨?_, fun log => ?_⟩
  · have shown := Expansion.expand_view (Resolver.Shows.firstOf shows_state suppliers) template
      ([], before)
    rw [expanded] at shown
    exact shown
  · have shown := Expansion.expand_view (Resolver.Shows.firstOf (shows_log log) suppliers) template
      ([], before)
    rw [expanded] at shown
    simp only [List.append_nil] at shown
    exact shown

/-- The log of an expansion is that of the rounds of the names that it asks. -/
theorem expand_rounds
    (suppliers : List (Supplier ι σ))
    (template : Text)
    (before : σ) :
    ∃ text answers calls after,
      Expansion.expand (.firstOf (suppliers.map logged)) template ([], before) =
        (text, calls, after) ∧
      Rounds suppliers
        (Expansion.asked (.firstOf (suppliers.map resolver)) template before)
        before answers calls after := by
  have shows := Resolver.Shows.firstOf (shows_state (ι := ι) (σ := σ)) suppliers
  obtain ⟨answers, calls, after, replied, rounds⟩ := answers_rounds suppliers
    (Expansion.asked (.firstOf (suppliers.map resolver)) template before) [] before
  have last := Expansion.answers_asked (.firstOf (suppliers.map logged)) template ([], before)
  rw [← Expansion.asked_view shows, replied] at last
  exact ⟨_, answers, calls, after, Prod.ext rfl last.symm, rounds⟩

end Logs

end Supplier

/-- Every question to a choice is a round of its sources from left to right, be it one of a row of
questions or of an expansion.  A choice with the same sources in the same order, such as one in which
an inner choice is replaced by its members, gives the same answers and the same text, asks the same
questions and leaves the same state. -/
theorem choice_asks_left_to_right {ι σ : Type} (choice : Choice (Supplier ι σ)) :
    (∀ names before, ∃ answers calls after,
      Supplier.Rounds choice.sources names before answers calls after ∧
      ∀ other : Choice (Supplier ι σ), other.sources = choice.sources →
        (other.resolver Supplier.resolver).answers names before = (answers, after) ∧
        ∀ log, (other.resolver Supplier.logged).answers names (log, before) =
          (answers, log ++ calls, after)) ∧
    (∀ template before, ∃ text answers calls after,
      Supplier.Rounds choice.sources
        (Expansion.asked (choice.resolver Supplier.resolver) template before)
        before answers calls after ∧
      ∀ other : Choice (Supplier ι σ), other.sources = choice.sources →
        Expansion.expand (other.resolver Supplier.resolver) template before = (text, after) ∧
        ∀ log, Expansion.expand (other.resolver Supplier.logged) template (log, before) =
          (text, log ++ calls, after)) ∧
    ∀ other, choice.Spliced other → other.sources = choice.sources := by
  simp only [Choice.resolver_eq_firstOf]
  refine ⟨?_, ?_, fun other => Choice.Spliced.sources_eq⟩
  · intro names before
    obtain ⟨answers, calls, after, replied, rounds⟩ :=
      Supplier.answers_rounds choice.sources names [] before
    refine ⟨answers, calls, after, rounds, fun other same => ?_⟩
    rw [same]
    exact Supplier.answers_of_logged replied
  · intro template before
    obtain ⟨text, answers, calls, after, expanded, rounds⟩ :=
      Supplier.expand_rounds choice.sources template before
    refine ⟨text, answers, calls, after, rounds, fun other same => ?_⟩
    rw [same]
    exact Supplier.expand_of_logged expanded

/-! An empty text, zero and a flag that is off are values.  A row of values with a gap stands before
a table, once in a choice of its own and once with the place of this choice taken by its members; the
state counts the questions to the row. -/

def gappedRow : Supplier Text Nat where
  label := "row".toList
  value _ count := ([.text [], .null, .integer 0].getD count .null, count + 1)

def flagTable : Supplier Text Nat where
  label := "table".toList
  value name count := (if name = "n".toList then .flag false else .null, count)

def nestedChoice : Choice (Supplier Text Nat) :=
  .among [.among [.source gappedRow, .among []], .source flagTable]

def splicedChoice : Choice (Supplier Text Nat) :=
  .among [.source gappedRow, .among [], .source flagTable]

theorem choice_asks_left_to_right_gap :
    let names := ["n".toList, "n".toList, "x".toList, "x".toList]
    let asked : List (Text × Text) := [("row".toList, "n".toList), ("row".toList, "n".toList),
      ("table".toList, "n".toList), ("row".toList, "x".toList), ("row".toList, "x".toList),
      ("table".toList, "x".toList)]
    (nestedChoice.Spliced splicedChoice ∧ splicedChoice.sources = nestedChoice.sources) ∧
      (splicedChoice.resolver Supplier.logged).answers names ([], 0) =
        ([some [], some "False".toList, some "0".toList, none], asked, 4) ∧
      Expansion.expand (splicedChoice.resolver Supplier.logged) "[{n}{n}{x}{x}]".toList ([], 0) =
        ("[False0{x}]".toList, asked, 4) := by
  intro names asked
  have spliced : nestedChoice.Spliced splicedChoice :=
    .here [] [.source gappedRow, .among []] [.source flagTable]
  obtain ⟨answers, expansion, regrouped⟩ := choice_asks_left_to_right nestedChoice
  have same := regrouped splicedChoice spliced
  refine ⟨⟨spliced, same⟩, ?_, ?_⟩
  · obtain ⟨_, _, _, _, alike⟩ := answers names 0
    rw [(alike splicedChoice same).2 [], ← (alike nestedChoice rfl).2 []]
    decide +kernel
  · obtain ⟨_, _, _, _, _, alike⟩ := expansion "[{n}{n}{x}{x}]".toList 0
    rw [(alike splicedChoice same).2 [], ← (alike nestedChoice rfl).2 [],
      Expansion.expand_eq_expandLevels]
    decide +kernel

end Stencil
