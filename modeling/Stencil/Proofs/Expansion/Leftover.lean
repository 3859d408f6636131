import Stencil.Command.Run
import Stencil.Proofs.Expansion.Descent
import Stencil.Proofs.Expansion.Verbatim
import Stencil.Proofs.Placeholder.Tidy

/-!
What an expansion leaves in its text.  When every brace belongs to a placeholder, a placeholder is
left for one of two reasons: its name is not answered, or it stands in a value at the depth limit,
which is not searched.  Only names of the first kind are reported, so a complete report says that
nothing is left exactly when no value at the limit holds a placeholder.
-/
namespace Stencil.Expansion

open Block Placeholder Text

/-! ## Names in aligned values -/

theorem plain_of_isEdgeChar
    {t : Text}
    (edge : ∀ c ∈ t, isEdgeChar c) :
    Template.Plain t :=
  ⟨fun member => (apart_of_isEdgeChar (edge _ member)).2.1 rfl,
    fun member => (apart_of_isEdgeChar (edge _ member)).2.2 rfl⟩

theorem plain_of_isBlank
    {t : Text}
    (blank : ∀ c ∈ t, isBlank c) :
    Template.Plain t :=
  ⟨fun member => absurd (blank _ member) (by decide),
    fun member => absurd (blank _ member) (by decide)⟩

/-- Trimming takes off literal text only. -/
theorem scan_eq_append_trimEdges (value : Text) :
    ∃ head tail, Template.Plain head ∧ Template.Plain tail ∧
      Template.scan value =
        Template.append ⟨[], head⟩
          (Template.append (Template.scan (trimEdges value)) ⟨[], tail⟩) := by
  obtain ⟨head, tail, parts, headEdge, tailEdge⟩ := eq_append_trimEdges value
  have plainHead := plain_of_isEdgeChar headEdge
  have plainTail := plain_of_isEdgeChar tailEdge
  have last : Template.scan (trimEdges value ++ tail) =
      Template.append (Template.scan (trimEdges value)) ⟨[], tail⟩ := by
    cases tail with
    | nil => simp [Template.append]
    | cons c tail =>
        obtain ⟨other, _, notClosing⟩ := apart_of_isEdgeChar (tailEdge c List.mem_cons_self)
        rw [Template.scan_append _ tail other notClosing,
          Template.scan_of_no_brace plainTail.1]
  refine ⟨head, tail, plainHead, plainTail, ?_⟩
  conv => lhs; rw [parts]
  rw [List.append_assoc, Template.scan_append_of_no_brace plainHead.1, last]

theorem scan_afterFeeds
    {indent : Text}
    (plain : Template.Plain indent)
    (t : Text) :
    (Template.scan (afterFeeds indent t)).names = (Template.scan t).names ∧
      ((Template.scan t).Tidy → (Template.scan (afterFeeds indent t)).Tidy) := by
  induction t using lineInduction with
  | last a clean =>
      rw [afterFeeds_of_no_feed indent clean]
      exact ⟨rfl, id⟩
  | line a rest clean ih =>
      obtain ⟨names, tidy⟩ := ih
      rw [afterFeeds_append, afterFeeds_of_no_feed indent clean, afterFeeds_feed,
        Template.scan_append_feed, Template.scan_append_feed,
        Template.scan_append_of_no_brace plain.1]
      refine ⟨by simp [names], ?_⟩
      simp only [Template.tidy_append, Template.tidy_literal]
      exact fun ⟨first, feed, others⟩ => ⟨first, feed, plain, tidy others⟩

/-- Aligning a value changes none of its placeholders. -/
theorem scan_align (value passed : Text) :
    (Template.scan (align value (leadOf passed))).names = (Template.scan value).names ∧
      ((Template.scan value).Tidy → (Template.scan (align value (leadOf passed))).Tidy) := by
  obtain ⟨head, tail, _, _, parts⟩ := scan_eq_append_trimEdges value
  have margin : Template.Plain (marginOf (leadOf passed)) :=
    plain_of_isBlank fun _ member => isBlank_of_mem_marginOf (lineFeed_not_mem_leadOf passed) member
  obtain ⟨names, tidy⟩ := scan_afterFeeds margin (trimEdges value)
  rw [align_eq_afterFeeds, names, parts]
  refine ⟨by simp, fun whole => tidy ?_⟩
  exact (Template.tidy_append.1 (Template.tidy_append.1 whole).2).1

/-! ## Values at the depth limit -/

/-- A name stands in a text that is so many answers away from given names. -/
def StandsBelow (answer : Text → Option Text) : Nat → List Text → Text → Prop
  | 0, names, name => name ∈ names
  | depth + 1, names, name =>
    ∃ via ∈ names, ∃ value, answer via = some value ∧
      StandsBelow answer depth (Template.scan value).names name

section StandsBelow

variable {answer : Text → Option Text} {levels : Nat} {name : Text}

theorem not_standsBelow_nil : ¬ StandsBelow answer levels [] name := by
  cases levels <;> simp [StandsBelow]

theorem standsBelow_cons_none
    {first : Text}
    (unanswered : answer first = none)
    (names : List Text) :
    StandsBelow answer (levels + 1) (first :: names) name ↔
      StandsBelow answer (levels + 1) names name := by
  simp [StandsBelow, unanswered]

theorem standsBelow_cons_some
    {first value : Text}
    (answered : answer first = some value)
    (names : List Text) :
    StandsBelow answer (levels + 1) (first :: names) name ↔
      StandsBelow answer levels (Template.scan value).names name ∨
        StandsBelow answer (levels + 1) names name := by
  simp [StandsBelow, answered]

end StandsBelow

/-! ## Runs -/

/-- A tidy text in which the names are left that were noted without an answer, and those that stand
so many levels below given names. -/
structure Leaves (answer : Text → Option Text) (levels : Nat) (names : List Text)
    (notes : List Reply) (text : Text) : Prop where
  tidy : (Template.scan text).Tidy
  left : ∀ name, name ∈ (Template.scan text).names ↔
    ⟨name, none⟩ ∈ notes ∨ StandsBelow answer levels names name

section Leaves

variable {answer : Text → Option Text} {levels : Nat} {names : List Text} {notes : List Reply}
  {literal first tail : Text}

theorem leaves_kept
    (plain : Template.Plain literal)
    (named : isName first)
    (unanswered : answer first = none)
    (leaves : Leaves answer (levels + 1) names notes tail) :
    Leaves answer (levels + 1) (first :: names) (⟨first, none⟩ :: notes)
      (literal ++ wrap first ++ tail) := by
  have whole := Template.scan_literal_wrap plain named tail
  refine ⟨?_, fun name => ?_⟩
  · rw [whole, Template.tidy_append, Template.tidy_literal, Template.tidy_consName]
    exact ⟨plain, leaves.tidy⟩
  · have names := leaves.left name
    rw [whole, standsBelow_cons_none unanswered]
    simp [names, or_assoc]

theorem leaves_replaced
    {value inner : Text}
    {innerNotes : List Reply}
    (plain : Template.Plain literal)
    (answered : answer first = some value)
    (innerLeaves : Leaves answer levels (Template.scan value).names innerNotes inner)
    (passed : Text)
    (leaves : Leaves answer (levels + 1) names notes tail) :
    Leaves answer (levels + 1) (first :: names) (⟨first, some value⟩ :: (innerNotes ++ notes))
      (literal ++ align inner (leadOf passed) ++ tail) := by
  obtain ⟨alignedNames, tidyAligned⟩ := scan_align inner passed
  have aligned := tidyAligned innerLeaves.tidy
  have whole : Template.scan (literal ++ align inner (leadOf passed) ++ tail) =
      Template.append ⟨[], literal⟩
        (Template.append (Template.scan (align inner (leadOf passed))) (Template.scan tail)) := by
    rw [List.append_assoc, Template.scan_append_of_no_brace plain.1,
      Template.scan_append_of_tidy aligned]
  refine ⟨?_, fun name => ?_⟩
  · rw [whole, Template.tidy_append, Template.tidy_append, Template.tidy_literal]
    exact ⟨plain, aligned, leaves.tidy⟩
  · have innerNames := innerLeaves.left name
    have names := leaves.left name
    rw [whole, standsBelow_cons_some answered]
    simp only [Template.names_append, Template.names_literal, List.nil_append, alignedNames,
      List.mem_append, List.mem_cons, innerNames, names, Reply.mk.injEq, reduceCtorEq, and_false,
      false_or]
    exact or_or_or_comm

end Leaves

variable {σ : Type} {answer : Text → Option Text}

theorem render_opened (levels : Nat) (text : Text) : (opened levels text).render = text := by
  cases levels with
  | zero => rfl
  | succ levels => exact Template.render_scan text

/-- The cuts after the first one are what their own text is cut into. -/
theorem scan_render_tail
    {cut : Cut}
    {cuts : List Cut}
    {rest : Text}
    (scanned : Template.scan (Template.render ⟨cut :: cuts, rest⟩) = ⟨cut :: cuts, rest⟩)
    (tidy : Template.Tidy ⟨cut :: cuts, rest⟩) :
    isName cut.name ∧ Template.scan (Template.render ⟨cuts, rest⟩) = ⟨cuts, rest⟩ := by
  have named : ∀ other ∈ cut :: cuts, isName other.name := by
    intro other member
    refine Template.isName_of_mem_cuts (t := Template.render ⟨cut :: cuts, rest⟩) ?_
    rwa [scanned]
  exact ⟨named cut List.mem_cons_self,
    Template.scan_render (Template.tidy_tail tidy).2
      fun other member => named other (List.mem_cons_of_mem cut member)⟩

/-- A text that is not searched, or is cut at its placeholders, with a tidy scan leaves what its
run notes. -/
theorem leaves_of_runs
    (tidyValues : ∀ name value, answer name = some value → (Template.scan value).Tidy)
    {levels : Nat}
    {passed : Text}
    {t : Template}
    {state : List Reply × σ}
    {result : Text × List Reply × σ}
    (runs : Runs (Resolver.pure answer).noted levels passed t state result)
    (tidy : (Template.scan t.render).Tidy)
    (scanned : levels ≠ 0 → Template.scan t.render = t) :
    ∃ notes, result.2.1 = state.1 ++ notes ∧
      Leaves answer levels (Template.scan t.render).names notes result.1 := by
  induction runs with
  | rest levels passed rest state =>
      have whole : Template.render ⟨[], rest⟩ = rest := rfl
      rw [whole] at tidy scanned ⊢
      refine ⟨[], (List.append_nil _).symm, tidy, fun name => ?_⟩
      cases levels with
      | zero => simp [StandsBelow]
      | succ levels =>
          rw [scanned (Nat.succ_ne_zero levels)]
          simp [not_standsBelow_nil]
  | @kept levels _ _ _ _ _ _ _ unanswered _ ih =>
      have same := scanned (Nat.succ_ne_zero levels)
      rw [same] at tidy
      obtain ⟨plain, tidyTail⟩ := Template.tidy_tail tidy
      obtain ⟨named, sameTail⟩ := scan_render_tail same tidy
      obtain ⟨notes, grown, leaves⟩ := ih (by rwa [sameTail]) fun _ => sameTail
      rw [Resolver.notes_of_noted unanswered, List.append_assoc] at grown
      rw [sameTail] at leaves
      rw [same]
      exact ⟨_, grown, leaves_kept plain named (congrArg Prod.fst unanswered) leaves⟩
  | @replaced levels passed _ value cut _ _ _ _ _ answered _ _ ihInner ih =>
      have same := scanned (Nat.succ_ne_zero levels)
      rw [same] at tidy
      obtain ⟨plain, tidyTail⟩ := Template.tidy_tail tidy
      obtain ⟨_, sameTail⟩ := scan_render_tail same tidy
      have valued : answer cut.name = some value := congrArg Prod.fst answered
      have opens : levels ≠ 0 → Template.scan value = opened levels value := by
        intro some_level
        obtain ⟨fewer, rfl⟩ := Nat.exists_eq_succ_of_ne_zero some_level
        rfl
      rw [render_opened] at ihInner
      obtain ⟨innerNotes, innerGrown, innerLeaves⟩ :=
        ihInner (tidyValues cut.name value valued) opens
      obtain ⟨notes, grown, leaves⟩ := ih (by rwa [sameTail]) fun _ => sameTail
      rw [innerGrown, Resolver.notes_of_noted answered, List.append_assoc, List.append_assoc]
        at grown
      rw [sameTail] at leaves
      rw [same]
      exact ⟨_, grown, leaves_replaced plain valued innerLeaves _ leaves⟩

theorem leaves_replies
    (tidyValues : ∀ name value, answer name = some value → (Template.scan value).Tidy)
    {template : Text}
    (tidy : (Template.scan template).Tidy)
    (state : σ) :
    Leaves answer depthLimit (Template.scan template).names
      (replies (.pure answer) template state) (expand (.pure answer) template state).1 := by
  have runs := runs_expand (Resolver.pure answer).noted template ([], state)
  rw [← Template.render_scan template] at tidy
  obtain ⟨notes, grown, leaves⟩ := leaves_of_runs tidyValues runs tidy
    fun _ => congrArg Template.scan (Template.render_scan template)
  rw [expand_noted, Template.render_scan] at leaves
  rw [expand_noted, List.nil_append, List.nil_append] at grown
  rwa [← grown] at leaves

/-- The names left in an expanded text are the unresolved ones and those in values at the depth
limit.  So when a report is complete, nothing is left exactly if no value at the limit holds a
placeholder. -/
theorem names_left_iff
    {template : Text}
    (tidy : (Template.scan template).Tidy)
    (tidyValues : ∀ name value, answer name = some value → (Template.scan value).Tidy)
    (state : σ) :
    let r := (report (.pure answer) template state).1
    let left := (Template.scan r.expanded).names
    let atLimit := StandsBelow answer depthLimit (Template.scan template).names
    (∀ name, name ∈ left ↔ name ∈ r.unresolved ∨ atLimit name) ∧
      (r.complete → (left = [] ↔ ∀ name, ¬ atLimit name)) := by
  intro r left atLimit
  have leaves := leaves_replies tidyValues tidy state
  have names : ∀ name, name ∈ left ↔ name ∈ r.unresolved ∨ atLimit name := by
    intro name
    rw [mem_unresolved_report]
    have expanded : r.expanded = (expand (.pure answer) template state).1 :=
      congrArg (fun result => result.1.expanded) (report_eq_replies (.pure answer) template state)
    show name ∈ (Template.scan r.expanded).names ↔ _
    rw [expanded]
    exact leaves.left name
  refine ⟨names, fun complete => ?_⟩
  have noneUnresolved : r.unresolved = [] := List.isEmpty_iff.1 complete
  rw [List.eq_nil_iff_forall_not_mem]
  simp only [names, noneUnresolved, List.not_mem_nil, false_or]

/-- A value of two lines, a name without an answer in it, and a loop that is not entered. -/
theorem names_left_iff_lines :
    let values : Table Text :=
      [("v".toList, "[{n}]\n{x}\n".toList), ("n".toList, "1".toList), ("a".toList, "{a}".toList)]
    let template := "- {v}".toList
    let r := (report (.ofTexts values) template ()).1
    (Template.scan template).Tidy ∧
      (∀ name value, values.get? name = some value → (Template.scan value).Tidy) ∧
      ∀ name, name ∈ (Template.scan r.expanded).names ↔ name = "x".toList := by
  intro values template r
  have tidy : (Template.scan template).Tidy := by decide
  have tidyValues : ∀ name value, values.get? name = some value → (Template.scan value).Tidy := by
    have entries : ∀ e ∈ values, (Template.scan e.2).Tidy := by decide
    intro name value found
    obtain ⟨e, first, rfl⟩ := Option.map_eq_some_iff.1 found
    exact entries e (List.mem_of_find?_eq_some first)
  have unresolved : r.unresolved = ["x".toList] := by
    simp only [r, report, expand_eq_expandLevels]
    decide +kernel
  have noneAtLimit : ∀ name,
      ¬ StandsBelow values.get? depthLimit (Template.scan template).names name := by
    rintro name ⟨via, inTemplate, value, answered, below⟩
    obtain rfl : via = "v".toList := List.mem_singleton.1 inTemplate
    cases answered
    obtain ⟨via, inValue, value, answered, below⟩ := below
    have inLines : (Template.scan "[{n}]\n{x}\n".toList).names = ["n".toList, "x".toList] := by
      decide
    rw [inLines, List.mem_cons, List.mem_singleton] at inValue
    rcases inValue with rfl | rfl
    · cases answered
      obtain ⟨via, inOne, _⟩ := below
      cases inOne
    · cases answered
  refine ⟨tidy, tidyValues, fun name => ?_⟩
  have left := (names_left_iff tidy tidyValues ()).1 name
  refine left.trans ⟨?_, ?_⟩
  · rintro (reported | atLimit)
    · exact List.mem_singleton.1 (unresolved ▸ reported)
    · exact absurd atLimit (noneAtLimit name)
  · rintro rfl
    exact .inl (unresolved ▸ List.mem_singleton_self _)

/-! ## A name that stands for itself -/

theorem surrounds_nil : Surrounds [] [] :=
  ⟨rfl, rfl, List.not_mem_nil, List.not_mem_nil, fun _ last => by cases last⟩

/-- The report on a name that stands for itself is complete, and its placeholder is left. -/
theorem report_loop
    (ask : Resolver σ)
    {name : Text}
    (named : isName name)
    (loops : ∀ state, ask name state = (some (wrap name), state))
    (state : σ) :
    let r := (report ask (wrap name) state).1
    r.complete = true ∧ r.expanded = wrap name := by
  have answers : ∀ level state, (ask ((fun _ : Nat => name) level) state).1 =
      some ([] ++ wrap name ++ []) := by
    intro level state
    rw [List.nil_append, List.append_nil, loops]
  obtain ⟨text, notes⟩ := expand_chain surrounds_nil (fun _ => named) answers state
  rw [copies_nil, List.nil_append, List.append_nil] at text
  intro r
  refine ⟨?_, ?_⟩
  · have answered : ∀ other, other ∉ r.unresolved := by
      intro other unresolved
      have noted := (mem_unresolved_report ask).1 unresolved
      rw [notes] at noted
      obtain ⟨level, _, reply⟩ := List.mem_map.1 noted
      cases reply
    exact List.isEmpty_iff.2 (List.eq_nil_iff_forall_not_mem.2 answered)
  · show (report ask (wrap name) state).1.expanded = _
    rw [report_eq_replies]
    exact text

open Command in
/-- A tidy template and a tidy value whose complete report leaves a placeholder that it does not
list, and which a strict run of the command writes. -/
theorem complete_report_leaves_loop :
    let values : Table Text := [("a".toList, "{a}".toList)]
    let template := "{a}".toList
    let r := (report (.ofTexts values) template ()).1
    let w : World := .fresh { entries := [] } [] (Utf8.encode template) []
    let o : ExpandOptions :=
      ⟨['-'], none, [.word "a={a}".toList], none, none, none, false, true, true⟩
    ((Template.scan template).Tidy ∧ ∀ e ∈ values, (Template.scan e.2).Tidy) ∧
      (r.complete = true ∧ (Template.scan r.expanded).names = ["a".toList]) ∧
      o.strict = true ∧ runExpand .default w o = ⟨.returned 0, template, [], w.tree, []⟩ := by
  intro values template r w o
  have named : isName "a".toList := by decide
  have wrapped : wrap "a".toList = template := by decide
  obtain ⟨complete, text⟩ := report_loop (.ofTexts values) named (fun _ => rfl) ()
  rw [wrapped] at complete text
  refine ⟨by decide, ⟨complete, ?_⟩, rfl, ?_⟩
  · show (Template.scan (report _ _ _).1.expanded).names = _
    rw [text]
    decide
  · let sources : Sources := ⟨values, none, none, w.reserved, false, none⟩
    have loaded : readInput w o.template = .ok template := by decide +kernel
    have gathered : gather .default w (searchStart w.folder o.template) o = ([], .ok sources) := by
      decide +kernel
    obtain ⟨complete, text⟩ := report_loop sources.resolver named (fun _ => rfl) ()
    rw [wrapped] at complete text
    simp only [runExpand, loaded, gathered]
    rw [if_pos complete, text]
    rfl

end Stencil.Expansion
