import Stencil.Proofs.Block.Lines

/-!
Taking an indent off the lines of a block.  Every line that starts with the indent loses it, blank
ones included, and a strict request is refused for the first inked line that does not start with it.
An indent put on again comes back on the inked lines only.
-/
namespace Stencil.Block

open Text

/-! ## One line -/

@[simp]
theorem stripIndent_append (indent line : Text) : stripIndent indent (indent ++ line) = line := by
  have starts : indent.isPrefixOf (indent ++ line) :=
    List.isPrefixOf_iff_prefix.2 (List.prefix_append indent line)
  rw [stripIndent, if_pos starts, List.drop_left]

theorem stripIndent_of_apart
    {indent line : Text}
    (other : ¬ indent <+: line) :
    stripIndent indent line = line :=
  if_neg fun starts => other (List.isPrefixOf_iff_prefix.1 starts)

theorem isBlankLine_stripIndent
    {indent : Text}
    (blank : isBlankLine indent)
    (line : Text) :
    isBlankLine (stripIndent indent line) = isBlankLine line := by
  by_cases starts : indent <+: line
  · obtain ⟨rest, rfl⟩ := starts
    rw [stripIndent_append, isBlankLine_append, blank, Bool.true_and]
  · rw [stripIndent_of_apart starts]

/-- The line feed that ends a line is not part of its indent. -/
theorem stripIndent_append_feed
    {indent : Text}
    (clean : '\n' ∉ indent)
    (line : Text) :
    stripIndent indent (line ++ ['\n']) = stripIndent indent line ++ ['\n'] := by
  by_cases starts : indent <+: line
  · obtain ⟨rest, rfl⟩ := starts
    rw [List.append_assoc, stripIndent_append, stripIndent_append]
  · have apart : ¬ indent <+: line ++ ['\n'] := by
      rw [List.prefix_concat_iff]
      rintro (whole | starts')
      · exact clean (by rw [whole]; simp)
      · exact starts starts'
    rw [stripIndent_of_apart starts, stripIndent_of_apart apart]

/-- A line without line feeds has none after it has lost an indent. -/
theorem lineFeed_not_mem_stripIndent
    {line : Text}
    (clean : '\n' ∉ line)
    (indent : Text) :
    '\n' ∉ stripIndent indent line := by
  by_cases starts : indent <+: line
  · obtain ⟨rest, rfl⟩ := starts
    rw [stripIndent_append]
    exact fun member => clean (List.mem_append_right indent member)
  · rwa [stripIndent_of_apart starts]

/-! ## All lines -/

/-- A block without an indent on those of its lines that start with it. -/
def stripLines (indent block : Text) : Text :=
  (lines block).flatMap (stripIndent indent)

theorem stripLines_of_no_feed
    (indent : Text)
    {a : Text}
    (clean : '\n' ∉ a) :
    stripLines indent a = stripIndent indent a := by
  by_cases empty : a = []
  · subst empty
    cases indent <;> rfl
  · rw [stripLines, lines_of_no_feed clean empty, List.flatMap_singleton]

theorem stripLines_append_feed
    {indent a : Text}
    (pads : '\n' ∉ indent)
    (clean : '\n' ∉ a)
    (rest : Text) :
    stripLines indent (a ++ '\n' :: rest) =
      stripIndent indent a ++ '\n' :: stripLines indent rest := by
  rw [stripLines, lines_append_feed clean, List.flatMap_cons, stripIndent_append_feed pads,
    List.append_assoc, List.singleton_append, stripLines]

/-- Blank lines stay blank and the others do not become blank, when the indent is blank itself. -/
theorem inkedLines_stripLines
    {indent : Text}
    (clean : '\n' ∉ indent)
    (blank : isBlankLine indent)
    (block : Text) :
    inkedLines (stripLines indent block) = (inkedLines block).map (stripIndent indent) := by
  induction block using lineInduction with
  | last a noFeed =>
      rw [stripLines_of_no_feed indent noFeed, inkedLines_of_no_feed noFeed,
        inkedLines_of_no_feed (lineFeed_not_mem_stripIndent noFeed indent), inked, inked,
        isBlankLine_stripIndent blank]
      split <;> rfl
  | line a rest noFeed ih =>
      rw [stripLines_append_feed clean noFeed, inkedLines_append_feed noFeed, List.map_append, ← ih,
        inkedLines_append_feed (lineFeed_not_mem_stripIndent noFeed indent), inked, inked,
        ← stripIndent_append_feed clean, isBlankLine_stripIndent blank]
      split <;> rfl

/-! ## Strict requests -/

theorem mapM_eq_of_find?
    {α β ε : Type}
    (refuses : α → Bool)
    (fault : α → ε)
    (value : α → β)
    (l : List α) :
    (l.mapM fun a => if refuses a then Except.error (fault a) else .ok (value a)) =
      match l.find? refuses with
      | some a => .error (fault a)
      | none => .ok (l.map value) := by
  induction l with
  | nil => rfl
  | cons a l ih =>
      rw [List.mapM_cons, List.find?_cons, ih]
      cases refuses a with
      | true => rfl
      | false => cases l.find? refuses <;> rfl

/-- The first inked line of a block that does not start with an indent. -/
def IsFirstAstray (indent block line : Text) : Prop :=
  ∃ before after, inkedLines block = before ++ line :: after ∧
    (∀ other ∈ before, indent <+: other) ∧ ¬ indent <+: line

theorem isFirstAstray_iff_find? {indent block line : Text} :
    IsFirstAstray indent block line ↔
      (inkedLines block).find? (fun line => !indent.isPrefixOf line) = some line := by
  simp only [List.find?_eq_some_iff_append, IsFirstAstray, Bool.not_not, Bool.not_eq_true',
    Bool.eq_false_iff, Ne, List.isPrefixOf_iff_prefix]
  constructor
  · rintro ⟨before, after, parts, starts, astray⟩
    exact ⟨astray, before, after, parts, starts⟩
  · rintro ⟨astray, before, after, parts, starts⟩
    exact ⟨before, after, parts, starts, astray⟩

theorem find?_astray_eq_none_iff {indent block : Text} :
    (inkedLines block).find? (fun line => !indent.isPrefixOf line) = none ↔
      ∀ line ∈ inkedLines block, indent <+: line := by
  simp only [List.find?_eq_none, Bool.not_eq_true', Bool.not_eq_false, List.isPrefixOf_iff_prefix]

theorem deindent_eq (indent block : Text) (strict : Bool) :
    deindent (some indent) block strict =
      match (inkedLines block).find? (fun line => strict && !indent.isPrefixOf line) with
      | some line => .error (.misindented line)
      | none => .ok (stripLines indent block) := by
  have refused : (inkedLines block).find? (fun line => strict && !indent.isPrefixOf line) =
      (lines block).find? fun line => strict && !indent.isPrefixOf line && !isBlankLine line := by
    rw [inkedLines, List.find?_filter]
    congr 1
    funext line
    cases isBlankLine line <;> simp
  have ran := mapM_eq_of_find?
    (fun line => strict && !indent.isPrefixOf line && !isBlankLine line)
    Error.misindented (stripIndent indent) (lines block)
  rw [deindent, Option.getD_some, refused]
  refine (congrArg (Except.map List.flatten) ran).trans ?_
  cases (lines block).find? _ <;> rfl

theorem deindent_lenient (indent block : Text) :
    deindent (some indent) block false = .ok (stripLines indent block) := by
  have kept : (inkedLines block).find? (fun _ => false) = none := by simp
  simp only [deindent_eq, Bool.false_and, kept]

theorem deindent_of_shared
    {indent block : Text}
    (shared : ∀ line ∈ inkedLines block, indent <+: line)
    (strict : Bool) :
    deindent (some indent) block strict = .ok (stripLines indent block) := by
  cases strict with
  | false => exact deindent_lenient indent block
  | true => simp only [deindent_eq, Bool.true_and, find?_astray_eq_none_iff.2 shared]

/-! ## Blocks of ended lines -/

theorem mem_getLast?_append_cons
    {rest : Text}
    {c : Char}
    (last : c ∈ rest.getLast?)
    (a : Text)
    (d : Char) :
    c ∈ (a ++ d :: rest).getLast? := by
  rw [List.getLast?_append, List.getLast?_cons, Option.mem_def.1 last]
  rfl

/-- A block whose lines are all ended by line feeds is empty, or a line and its line feed before
such a block. -/
@[elab_as_elim]
theorem fedInduction
    {motive : (t : Text) → (∀ c ∈ t.getLast?, c = '\n') → Prop}
    (nil : ∀ fed, motive [] fed)
    (line : ∀ a rest fed fedRest, '\n' ∉ a → motive rest fedRest →
      motive (a ++ '\n' :: rest) fed)
    (t : Text)
    (fed : ∀ c ∈ t.getLast?, c = '\n') :
    motive t fed := by
  induction t using lineInduction with
  | last a clean =>
      cases last : a.getLast? with
      | none =>
          obtain rfl := List.getLast?_eq_none_iff.1 last
          exact nil fed
      | some c => exact absurd (fed c last ▸ List.mem_of_getLast? last) clean
  | line a rest clean ih =>
      have fedRest : ∀ c ∈ rest.getLast?, c = '\n' :=
        fun c last => fed c (mem_getLast?_append_cons last a '\n')
      exact line a rest fed fedRest clean (ih fedRest)

theorem flatten_lines (t : Text) : (lines t).flatten = t := by
  induction t using lineInduction with
  | last a clean =>
      by_cases empty : a = []
      · subst empty
        rfl
      · rw [lines_of_no_feed clean empty, List.flatten_singleton]
  | line a rest clean ih =>
      rw [lines_append_feed clean, List.flatten_cons, ih, List.append_assoc, List.singleton_append]

theorem lines_inj {a b : Text} : lines a = lines b ↔ a = b :=
  ⟨fun same => by rw [← flatten_lines a, same, flatten_lines], congrArg lines⟩

section Fed

variable {indent block : Text}

theorem fed_stripLines
    (clean : '\n' ∉ indent)
    (fed : ∀ c ∈ block.getLast?, c = '\n') :
    ∀ c ∈ (stripLines indent block).getLast?, c = '\n' := by
  induction block, fed using fedInduction with
  | nil _ => simp [stripLines, lines]
  | line a rest _ _ noFeed ih =>
      rw [stripLines_append_feed clean noFeed, List.getLast?_append, List.getLast?_cons]
      cases last : (stripLines indent rest).getLast? with
      | none => simp
      | some c => simpa using ih c last

theorem lines_stripLines
    (clean : '\n' ∉ indent)
    (fed : ∀ c ∈ block.getLast?, c = '\n') :
    lines (stripLines indent block) = (lines block).map (stripIndent indent) := by
  induction block, fed using fedInduction with
  | nil _ => rfl
  | line a rest _ _ noFeed ih =>
      rw [stripLines_append_feed clean noFeed, lines_append_feed noFeed, List.map_cons, ← ih,
        lines_append_feed (lineFeed_not_mem_stripIndent noFeed indent),
        stripIndent_append_feed clean]

theorem lines_indentBlock
    (clean : '\n' ∉ indent)
    (fed : ∀ c ∈ block.getLast?, c = '\n') :
    lines (indentBlock indent block) =
      (lines block).map fun line => if isBlankLine line then line else indent ++ line := by
  by_cases some_indent : indent = []
  · simp [some_indent, indentBlock]
  induction block, fed using fedInduction with
  | nil _ => simp [indentBlock, lines]
  | line a rest _ _ noFeed ih =>
      rw [indentBlock_append_feed some_indent noFeed, lines_append_feed noFeed, List.map_cons, ← ih]
      cases blank : isBlankLine a with
      | true =>
          rw [if_pos rfl, List.nil_append, lines_append_feed noFeed]
          simp [blank]
      | false =>
          have noFeed' : '\n' ∉ indent ++ a := by simp [clean, noFeed]
          rw [if_neg (by simp), lines_append_feed noFeed']
          simp [blank]

end Fed

/-! ## There and back -/

/-- What is left of a line when an indent is taken off and put on again: a blank line that starts
with the indent loses it. -/
def cleared (indent line : Text) : Text :=
  if isBlankLine line ∧ indent <+: line then line.drop indent.length else line

theorem cleared_eq_self_iff {indent line : Text} :
    cleared indent line = line ↔ indent = [] ∨ (isBlankLine line → ¬ indent <+: line) := by
  unfold cleared
  by_cases dropped : isBlankLine line ∧ indent <+: line
  · obtain ⟨blank, rest, rfl⟩ := dropped
    simp [blank]
  · simp only [if_neg dropped, true_iff]
    exact .inr fun blank starts => dropped ⟨blank, starts⟩

theorem indent_stripIndent
    {indent line : Text}
    (blank : isBlankLine indent)
    (shared : ¬ isBlankLine line → indent <+: line) :
    (if isBlankLine (stripIndent indent line) then stripIndent indent line
      else indent ++ stripIndent indent line) = cleared indent line := by
  rw [isBlankLine_stripIndent blank, cleared]
  by_cases starts : indent <+: line
  · obtain ⟨rest, rfl⟩ := starts
    cases inked : isBlankLine (indent ++ rest) <;> simp
  · have blankLine : isBlankLine line :=
      Classical.byContradiction fun ink => starts (shared ink)
    simp [stripIndent_of_apart starts, blankLine, starts]

theorem lines_indentBlock_stripLines
    {indent block : Text}
    (pads : ∀ c ∈ indent, isPad c)
    (fed : ∀ c ∈ block.getLast?, c = '\n')
    (shared : ∀ line ∈ inkedLines block, indent <+: line) :
    lines (indentBlock indent (stripLines indent block)) =
      (lines block).map (cleared indent) := by
  have clean := lineFeed_not_mem_of_isPad pads
  rw [lines_indentBlock clean (fed_stripLines clean fed), lines_stripLines clean fed, List.map_map]
  refine List.map_congr_left fun line member => ?_
  refine indent_stripIndent (isBlankLine_of_isPad pads) fun ink => ?_
  exact shared line (List.mem_filter.2 ⟨member, by simpa using ink⟩)

/-- An indent that all inked lines share is taken off and put on again.  The block comes back, apart
from the blank lines that started with the indent, which are left without it. -/
theorem deindented_and_back
    {indent block : Text}
    (pads : ∀ c ∈ indent, isPad c)
    (fed : ∀ c ∈ block.getLast?, c = '\n')
    (shared : ∀ line ∈ inkedLines block, indent <+: line)
    (strict : Bool) :
    ∃ stripped, deindent (some indent) block strict = .ok stripped ∧
      lines (indentBlock indent stripped) = (lines block).map (cleared indent) ∧
      (indentBlock indent stripped = block ↔
        indent = [] ∨ ∀ line ∈ lines block, isBlankLine line → ¬ indent <+: line) := by
  have back := lines_indentBlock_stripLines pads fed shared
  have unchanged : (lines block).map (cleared indent) = lines block ↔
      ∀ line ∈ lines block, cleared indent line = line := by
    simpa using List.map_inj_left (l := lines block) (f := cleared indent) (g := id)
  refine ⟨stripLines indent block, deindent_of_shared shared strict, back, ?_⟩
  rw [← lines_inj, back, unchanged]
  simp only [cleared_eq_self_iff]
  by_cases empty : indent = [] <;> simp [empty]

/-- Blank lines that are too short for the indent come back like the others. -/
theorem deindented_and_back_nested :
    (deindent (some " \t".toList) " \ta\n\n  \n \t\tb\n".toList true).map
        (indentBlock " \t".toList) =
      .ok " \ta\n\n  \n \t\tb\n".toList := by
  have pads : ∀ c ∈ " \t".toList, isPad c := List.all_eq_true.1 (by decide)
  have fed : ∀ c ∈ " \ta\n\n  \n \t\tb\n".toList.getLast?, c = '\n' := by
    intro c last
    exact (Option.some.inj last).symm
  obtain ⟨stripped, ran, _, restored⟩ :=
    deindented_and_back pads fed (by decide) true
  rw [ran, Except.map, restored.2 (.inr (by decide))]

/-- A blank line that is longer than the indent comes back without it. -/
theorem blankLine_not_restored :
    (∀ c ∈ "  ".toList, isPad c) ∧ "  a\n    \n".toList.getLast? = some '\n' ∧
    (∀ line ∈ inkedLines "  a\n    \n".toList, "  ".toList <+: line) ∧
    (deindent (some "  ".toList) "  a\n    \n".toList false).map (indentBlock "  ".toList) =
      .ok "  a\n  \n".toList ∧
    "  a\n  \n".toList ≠ "  a\n    \n".toList :=
  ⟨List.all_eq_true.1 (by decide), by decide, by decide, by rfl, by decide⟩

end Stencil.Block
