import Stencil.Proofs.Placeholder.Scan

/-!
Spans of placeholders.  A span of a text starts with an opening brace, ends with a closing one, and
has a name between them.  The occurrences found in a text are its spans in order, each found once,
and with the texts between them they make up the text again.
-/
namespace Stencil.Placeholder

/-- From one position to another a text has an opening brace, a name and a closing brace. -/
structure IsSpan (t : Text) (start stop : Nat) : Prop where
  opened : t[start]? = some '{'
  closed : t[stop - 1]? = some '}'
  named : isName (t.extract (start + 1) (stop - 1))

theorem isSpan_iff_and
    {t : Text}
    {start stop : Nat} :
    IsSpan t start stop ↔
      t[start]? = some '{' ∧ t[stop - 1]? = some '}' ∧
        isName (t.extract (start + 1) (stop - 1)) :=
  ⟨fun span => ⟨span.opened, span.closed, span.named⟩,
    fun ⟨opened, closed, named⟩ => ⟨opened, closed, named⟩⟩

instance (t : Text) (start stop : Nat) : Decidable (IsSpan t start stop) :=
  decidable_of_iff _ isSpan_iff_and.symm

def Occurrence.span (o : Occurrence) : Nat × Nat :=
  (o.start, o.stop)

/-- The placeholders of some occurrences and the texts between them, from a position on. -/
def weave (t : Text) (position : Nat) : List Occurrence → Text
  | [] => t.drop position
  | o :: others => t.extract position o.start ++ wrap o.name ++ weave t o.stop others

@[simp]
theorem length_wrap (name : Text) : (wrap name).length = name.length + 2 := by
  simp [wrap]

/-! ## Placeholders in place -/

/-- An occurrence is a placeholder of a text whose first character has this position. -/
structure StandsIn (o : Occurrence) (position : Nat) (t : Text) : Prop where
  named : isName o.name
  stop : o.stop = o.start + o.name.length + 2
  place : ∃ before after, t = before ++ wrap o.name ++ after ∧ o.start = position + before.length

section StandsIn

variable {o : Occurrence} {position : Nat} {t name rest : Text} {c : Char}

theorem not_standsIn_nil : ¬ StandsIn o position [] := by
  intro stands
  obtain ⟨before, after, parts, _⟩ := stands.place
  simp [wrap] at parts

/-- A placeholder stands at the start of a text, or behind its first character. -/
theorem standsIn_cons_iff :
    StandsIn o position (c :: rest) ↔
      (c = '{' ∧ Template.nameAfterBrace? rest = some o.name ∧
        o = ⟨o.name, position, position + o.name.length + 2⟩) ∨
        StandsIn o (position + 1) rest := by
  constructor
  · rintro ⟨named, stop, before, after, parts, start⟩
    cases before with
    | nil =>
        obtain ⟨rfl, inside⟩ := List.cons.inj parts
        have found : rest = o.name ++ '}' :: after := by simpa using inside
        obtain rfl : o.start = position := start
        refine .inl ⟨rfl, ?_, ?_⟩
        · rw [found]
          exact Template.nameAfterBrace?_closed named after
        · rw [← stop]
    | cons d before =>
        obtain ⟨rfl, rfl⟩ := List.cons.inj parts
        refine .inr ⟨named, stop, before, after, rfl, ?_⟩
        rw [List.length_cons] at start
        omega
  · rintro (⟨rfl, found, placed⟩ | ⟨named, stop, before, after, rfl, start⟩)
    · obtain ⟨named, after, rfl⟩ := Template.nameAfterBrace?_eq_some_iff.1 found
      refine ⟨named, ?_, [], after, by simp [wrap], ?_⟩
      · rw [placed]
      · rw [placed]
        rfl
    · refine ⟨named, stop, c :: before, after, rfl, ?_⟩
      rw [List.length_cons]
      omega

theorem standsIn_cons
    (literal : Template.IsLiteral c rest) :
    StandsIn o position (c :: rest) ↔ StandsIn o (position + 1) rest := by
  rw [standsIn_cons_iff, or_iff_right]
  rintro ⟨brace, found, _⟩
  rw [literal brace] at found
  cases found

theorem standsIn_append_of_no_brace
    {a : Text}
    (plain : '{' ∉ a) :
    StandsIn o position (a ++ rest) ↔ StandsIn o (position + a.length) rest := by
  induction a generalizing position with
  | nil => rfl
  | cons c a ih =>
      rw [List.mem_cons, not_or] at plain
      rw [List.cons_append, standsIn_cons (fun brace => absurd brace.symm plain.1), ih plain.2,
        List.length_cons, Nat.add_right_comm, Nat.add_assoc]

/-- Behind a placeholder at the start of a text, no other one begins before it has ended. -/
theorem standsIn_wrap
    (named : isName name) :
    StandsIn o position (wrap name ++ rest) ↔
      o = ⟨name, position, position + name.length + 2⟩ ∨
        StandsIn o (position + name.length + 2) rest := by
  have inside : wrap name ++ rest = '{' :: (name ++ ['}'] ++ rest) := rfl
  have found : Template.nameAfterBrace? (name ++ ['}'] ++ rest) = some name := by
    simpa using Template.nameAfterBrace?_closed named rest
  have plain : '{' ∉ name ++ ['}'] := by
    simpa using not_mem_of_isName named (by decide)
  rw [inside, standsIn_cons_iff, standsIn_append_of_no_brace plain, found]
  refine or_congr ⟨?_, ?_⟩ ?_
  · rintro ⟨_, same, placed⟩
    rw [placed, ← Option.some.inj same]
  · rintro rfl
    exact ⟨rfl, rfl, rfl⟩
  · rw [List.length_append, List.length_singleton]
    have same : position + 1 + (name.length + 1) = position + name.length + 2 := by omega
    rw [same]

end StandsIn

/-! ## Occurrences of a cut text -/

theorem occurrencesFrom_cons (position : Nat) (c : Char) (t : Template) :
    occurrencesFrom position (Template.cons c t).cuts = occurrencesFrom (position + 1) t.cuts := by
  obtain ⟨cuts, rest⟩ := t
  cases cuts with
  | nil => rfl
  | cons cut cuts =>
      have start : position + (cut.literal.length + 1) = position + 1 + cut.literal.length := by
        omega
      simp only [Template.cons, occurrencesFrom, List.length_cons, start]

theorem occurrencesFrom_consName (position : Nat) (name : Text) (t : Template) :
    occurrencesFrom position (Template.consName name t).cuts =
      ⟨name, position, position + name.length + 2⟩ ::
        occurrencesFrom (position + name.length + 2) t.cuts :=
  rfl

/-- The occurrences found in a text are the placeholders that stand in it. -/
theorem mem_occurrencesFrom_iff
    {o : Occurrence}
    {t : Text}
    {position : Nat} :
    o ∈ occurrencesFrom position (Template.scan t).cuts ↔ StandsIn o position t := by
  induction t using Template.scanInduction generalizing position with
  | nil => exact iff_of_false List.not_mem_nil not_standsIn_nil
  | literal c rest literal ih =>
      rw [Template.scan_cons literal, occurrencesFrom_cons, ih, standsIn_cons literal]
  | placeholder name rest named ih =>
      rw [Template.scan_wrap named, occurrencesFrom_consName, List.mem_cons, ih,
        standsIn_wrap named]

/-- Occurrences follow each other without a common character. -/
theorem pairwise_occurrencesFrom (position : Nat) (cuts : List Cut) :
    (∀ o ∈ occurrencesFrom position cuts, position ≤ o.start ∧ o.start < o.stop) ∧
      (occurrencesFrom position cuts).Pairwise fun o later => o.stop ≤ later.start := by
  induction cuts generalizing position with
  | nil => exact ⟨fun _ member => absurd member List.not_mem_nil, .nil⟩
  | cons cut cuts ih =>
      obtain ⟨ordered, apart⟩ :=
        ih (position + cut.literal.length + cut.name.length + 2)
      rw [occurrencesFrom, List.forall_mem_cons, List.pairwise_cons]
      have first : position ≤ position + cut.literal.length := Nat.le_add_right _ _
      have ends : position + cut.literal.length <
          position + cut.literal.length + cut.name.length + 2 := by omega
      refine ⟨⟨⟨first, ends⟩, ?_⟩, ?_, apart⟩
      · intro o member
        have later := ordered o member
        omega
      · exact fun o member => (ordered o member).1

/-- The texts between the occurrences are the literal texts of the cuts. -/
theorem weave_occurrencesFrom
    (before : Text)
    (cuts : List Cut)
    (rest : Text) :
    weave (before ++ Template.render ⟨cuts, rest⟩) before.length
        (occurrencesFrom before.length cuts) =
      Template.render ⟨cuts, rest⟩ := by
  induction cuts generalizing before with
  | nil => simp [occurrencesFrom, weave, Template.render]
  | cons cut cuts ih =>
      have rendered : Template.render ⟨cut :: cuts, rest⟩ =
          cut.literal ++ (wrap cut.name ++ Template.render ⟨cuts, rest⟩) := by
        simp [Template.render]
      have between : (before ++ Template.render ⟨cut :: cuts, rest⟩).extract before.length
          (before.length + cut.literal.length) = cut.literal := by
        rw [rendered]
        simp [List.extract]
      have later := ih (before ++ cut.literal ++ wrap cut.name)
      simp only [List.length_append, length_wrap, ← Nat.add_assoc, List.append_assoc] at later
      rw [occurrencesFrom, weave, between, rendered, later, List.append_assoc]

/-! ## Spans -/

theorem drop_eq_cons
    {t : Text}
    {i : Nat}
    {c : Char}
    (found : t[i]? = some c) :
    t.drop i = c :: t.drop (i + 1) := by
  obtain ⟨inside, rfl⟩ := List.getElem?_eq_some_iff.1 found
  exact List.drop_eq_getElem_cons inside

theorem extract_between
    (a b c : Text) :
    (a ++ b ++ c).extract a.length (a.length + b.length) = b := by
  simp [List.extract]

/-- What is read off a text at a placeholder that stands in it. -/
theorem extract_of_standsIn
    {o : Occurrence}
    {t : Text}
    (stands : StandsIn o 0 t) :
    t.extract o.start o.stop = wrap o.name ∧
      t.extract (o.start + 1) (o.stop - 1) = o.name := by
  obtain ⟨_, stop, before, after, parts, start⟩ := stands
  have outside : o.start = before.length := by omega
  refine ⟨?_, ?_⟩
  · have outer : o.stop = before.length + (wrap o.name).length := by
      rw [length_wrap, stop, outside, Nat.add_assoc]
    rw [outside, outer, parts, extract_between]
  · have inner : t = before ++ ['{'] ++ o.name ++ '}' :: after := by
      rw [parts]
      simp [wrap]
    have first : o.start + 1 = (before ++ ['{']).length := by simp [outside]
    have last : o.stop - 1 = (before ++ ['{']).length + o.name.length := by
      rw [← first, stop]
      omega
    conv => lhs; rw [first, last, inner]
    exact extract_between _ _ _

theorem isSpan_of_standsIn
    {o : Occurrence}
    {t : Text}
    (stands : StandsIn o 0 t) :
    IsSpan t o.start o.stop := by
  obtain ⟨_, between⟩ := extract_of_standsIn stands
  obtain ⟨named, stop, before, after, parts, start⟩ := stands
  refine ⟨?_, ?_, between ▸ named⟩
  · have here : o.start = before.length := by omega
    rw [here, parts]
    simp [wrap]
  · have here : o.stop - 1 = (before ++ '{' :: o.name).length := by
      rw [List.length_append, List.length_cons]
      omega
    have inner : t = (before ++ '{' :: o.name) ++ '}' :: after := by
      rw [parts]
      simp [wrap]
    rw [here, inner]
    simp

/-- A span holds a placeholder, whose name is what stands between the braces. -/
theorem standsIn_of_isSpan
    {t : Text}
    {start stop : Nat}
    (span : IsSpan t start stop) :
    StandsIn ⟨t.extract (start + 1) (stop - 1), start, stop⟩ 0 t := by
  obtain ⟨opened, closed, named⟩ := span
  have inside : stop - 1 < t.length := (List.getElem?_eq_some_iff.1 closed).1
  have length : (t.extract (start + 1) (stop - 1)).length = stop - 1 - (start + 1) := by
    simp only [List.extract, List.length_take, List.length_drop]
    omega
  have some_between : 0 < (t.extract (start + 1) (stop - 1)).length := by
    refine List.length_pos_iff.2 fun none => ?_
    rw [none] at named
    cases named
  rw [length] at some_between
  have behind : t.drop (start + 1) =
      t.extract (start + 1) (stop - 1) ++ '}' :: t.drop stop := by
    have rest : (t.drop (start + 1)).drop (stop - 1 - (start + 1)) = '}' :: t.drop stop := by
      have place : start + 1 + (stop - 1 - (start + 1)) = stop - 1 := by omega
      have next : stop - 1 + 1 = stop := by omega
      rw [List.drop_drop, place, drop_eq_cons closed, next]
    rw [← rest, List.extract, List.take_append_drop]
  refine ⟨named, ?_, t.take start, t.drop stop, ?_, ?_⟩
  · show stop = start + (t.extract (start + 1) (stop - 1)).length + 2
    omega
  · conv => lhs; rw [← List.take_append_drop start t, drop_eq_cons opened, behind]
    simp [wrap]
  · show start = 0 + (t.take start).length
    have opens : start < t.length := (List.getElem?_eq_some_iff.1 opened).1
    rw [List.length_take]
    omega

theorem mem_spans_iff
    {t : Text}
    {start stop : Nat} :
    (start, stop) ∈ (occurrences t).map Occurrence.span ↔ IsSpan t start stop := by
  rw [List.mem_map]
  constructor
  · rintro ⟨o, member, placed⟩
    obtain ⟨rfl, rfl⟩ := Prod.mk.inj placed
    exact isSpan_of_standsIn (mem_occurrencesFrom_iff.1 member)
  · intro span
    exact ⟨_, mem_occurrencesFrom_iff.2 (standsIn_of_isSpan span), rfl⟩

/-- The occurrences found in a text are its spans: each is found once, from left to right, under
the name between its braces, and with the texts between them they make up the text again. -/
theorem occurrences_are_spans (t : Text) :
    (∀ start stop, ((occurrences t).map Occurrence.span).count (start, stop) =
      if IsSpan t start stop then 1 else 0) ∧
    (∀ o ∈ occurrences t, wrap o.name = t.extract o.start o.stop ∧
      o.name = t.extract (o.start + 1) (o.stop - 1)) ∧
    (occurrences t).Pairwise (fun o later => o.start < later.start ∧ o.stop ≤ later.start) ∧
    weave t 0 (occurrences t) = t := by
  obtain ⟨ordered, apart⟩ := pairwise_occurrencesFrom 0 (Template.scan t).cuts
  have rising : (occurrences t).Pairwise
      fun o later => o.start < later.start ∧ o.stop ≤ later.start := by
    refine apart.imp_of_mem fun {o later} member _ follows => ⟨?_, follows⟩
    exact Nat.lt_of_lt_of_le (ordered o member).2 follows
  have distinct : ((occurrences t).map Occurrence.span).Nodup := by
    refine List.pairwise_map.2 (rising.imp fun {o later} follows same => ?_)
    exact absurd (Prod.mk.inj same).1 (Nat.ne_of_lt follows.1)
  refine ⟨fun start stop => ?_, fun o member => ?_, rising, ?_⟩
  · rw [distinct.count]
    simp only [mem_spans_iff]
  · obtain ⟨whole, between⟩ := extract_of_standsIn (mem_occurrencesFrom_iff.1 member)
    exact ⟨whole.symm, between.symm⟩
  · have woven := weave_occurrencesFrom [] (Template.scan t).cuts (Template.scan t).rest
    have whole : Template.render ⟨(Template.scan t).cuts, (Template.scan t).rest⟩ = t :=
      Template.render_scan t
    rwa [whole] at woven

/-- Braces that are doubled, nested or never closed hide nothing. -/
example :
    (occurrences "\x7b\x7ba\x7d\x7bb\x7bc.d\x7d\x7d\x7be".toList).map Occurrence.span =
      [(1, 4), (6, 11)] := by
  decide

end Stencil.Placeholder
