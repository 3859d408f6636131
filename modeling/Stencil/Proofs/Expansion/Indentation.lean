import Stencil.Proofs.Expansion.Alignment
import Stencil.Proofs.Expansion.Linewise

/-!
Expansion commutes with indentation.  An indent before a line stands before all its placeholders, so
it comes to stand after every line feed of their values; a blank line holds no placeholder, whether
the indented template keeps it or not.
-/
namespace Stencil.Expansion

open Text Block Placeholder

variable {σ : Type} (ask : Resolver σ) (deeper : Text → σ → Text × σ) {indent : Text}

/-! ## One line -/

theorem replacement_indent
    (pads : ∀ c ∈ indent, isPad c)
    {before name : Text}
    (cleanBefore : '\n' ∉ before)
    (cleanName : '\n' ∉ wrap name)
    (state : σ) :
    replacement ask deeper (before ++ indent.reverse) name state =
      let plain := replacement ask deeper before name state
      (afterFeeds indent plain.1, plain.2) := by
  have cleanIndent := lineFeed_not_mem_of_isPad pads
  have lead : leadOf (before ++ indent.reverse) = indent ++ leadOf before := by
    rw [leadOf_of_no_feed cleanBefore, leadOf_of_no_feed (by simp [cleanBefore, cleanIndent])]
    simp
  have cleanLead : '\n' ∉ leadOf before := by
    rw [leadOf_of_no_feed cleanBefore]
    simpa using cleanBefore
  rcases answer : ask name state with ⟨_ | value, after⟩
  · simp [replacement, answer, afterFeeds_of_no_feed indent cleanName]
  · simp [replacement, answer, lead, align_indent pads cleanLead]

theorem substitute_indent
    (pads : ∀ c ∈ indent, isPad c)
    {cuts : List Cut}
    {rest passed : Text}
    (cleanPassed : '\n' ∉ passed)
    (cleanText : '\n' ∉ Template.render ⟨cuts, rest⟩)
    (state : σ) :
    substitute ask deeper rest (passed ++ indent.reverse) cuts state =
      let plain := substitute ask deeper rest passed cuts state
      (afterFeeds indent plain.1, plain.2) := by
  induction cuts generalizing passed state with
  | nil =>
      have cleanRest : '\n' ∉ rest := by simpa [Template.render] using cleanText
      simp [substitute, afterFeeds_of_no_feed indent cleanRest]
  | cons cut cuts ih =>
      have cleanParts : ('\n' ∉ cut.literal ∧ '\n' ∉ wrap cut.name) ∧
          '\n' ∉ Template.render ⟨cuts, rest⟩ := by
        simpa [Template.render, and_assoc] using cleanText
      obtain ⟨⟨cleanLiteral, cleanName⟩, cleanLater⟩ := cleanParts
      have cleanBefore : '\n' ∉ cut.literal.reverse ++ passed := by
        simp [cleanLiteral, cleanPassed]
      have cleanAfter : '\n' ∉ (wrap cut.name).reverse ++ (cut.literal.reverse ++ passed) := by
        simp only [List.mem_append, List.mem_reverse, not_or]
        exact ⟨cleanName, cleanLiteral, cleanPassed⟩
      simp only [substitute]
      rw [← List.append_assoc, ← List.append_assoc,
        replacement_indent ask deeper pads cleanBefore cleanName, ih cleanAfter cleanLater]
      simp [afterFeeds_of_no_feed indent cleanLiteral]

theorem not_mem_of_isPad
    (pads : ∀ c ∈ indent, isPad c) :
    '{' ∉ indent := by
  intro member
  have pad := pads '{' member
  revert pad
  decide

theorem expandLevels_of_no_brace
    (levels : Nat)
    {t : Text}
    (plain : '{' ∉ t)
    (state : σ) :
    expandLevels ask levels t state = (t, state) := by
  cases levels with
  | zero => rfl
  | succ levels =>
      simp only [expandLevels, Template.scan_of_no_brace plain]
      rfl

/-- The expansion of an indented line is the expansion of the line with the indent before each of
its lines. -/
theorem expandLevels_indent_line
    (pads : ∀ c ∈ indent, isPad c)
    (levels : Nat)
    {line : Text}
    (clean : '\n' ∉ line)
    (state : σ) :
    expandLevels ask levels (indent ++ line) state =
      let plain := expandLevels ask levels line state
      (indent ++ afterFeeds indent plain.1, plain.2) := by
  cases levels with
  | zero => simp [expandLevels, afterFeeds_of_no_feed indent clean]
  | succ levels =>
      have cleanText : '\n' ∉
          Template.render ⟨(Template.scan line).cuts, (Template.scan line).rest⟩ := by
        rwa [Template.render_scan]
      have shifted := substitute_indent ask (expandLevels ask levels) pads
        (List.not_mem_nil (a := '\n')) cleanText state
      have passed : (Template.render ⟨[], indent⟩).reverse ++ [] = [] ++ indent.reverse := by
        simp [Template.render]
      simp only [expandLevels]
      rw [Template.scan_append_of_no_brace (not_mem_of_isPad pads), fill_append, fill_literal]
      simp only [fill, passed, shifted]

/-! ## Inked lines -/

theorem inkedLines_afterFeeds
    (pads : ∀ c ∈ indent, isPad c)
    (t : Text) :
    inkedLines (indent ++ afterFeeds indent t) = (inkedLines t).map (indent ++ ·) := by
  have indentBlank := isBlankLine_of_isPad pads
  have cleanIndent := lineFeed_not_mem_of_isPad pads
  have same : ∀ line, inked (indent ++ line) = (inked line).map (indent ++ ·) := by
    intro line
    cases blank : isBlankLine line <;> simp [inked, blank, indentBlank]
  induction t using lineInduction with
  | last a clean =>
      have clean' : '\n' ∉ indent ++ a := by simp [cleanIndent, clean]
      rw [afterFeeds_of_no_feed indent clean, inkedLines_of_no_feed clean',
        inkedLines_of_no_feed clean, same]
  | line a rest clean ih =>
      have clean' : '\n' ∉ indent ++ a := by simp [cleanIndent, clean]
      rw [afterFeeds_append, afterFeeds_of_no_feed indent clean, afterFeeds_feed,
        ← List.append_assoc, inkedLines_append_feed clean', inkedLines_append_feed clean,
        List.append_assoc, same, ih, List.map_append]

theorem inkedLines_afterFeeds_feed
    (pads : ∀ c ∈ indent, isPad c)
    (t : Text) :
    inkedLines (indent ++ afterFeeds indent t ++ ['\n']) =
      (inkedLines (t ++ ['\n'])).map (indent ++ ·) := by
  have noInk : inkedLines indent = [] :=
    inkedLines_of_blank (lineFeed_not_mem_of_isPad pads) (isBlankLine_of_isPad pads)
  have whole := inkedLines_afterFeeds pads (t ++ ['\n'])
  have after : afterFeeds indent ['\n'] = '\n' :: indent := by simp [afterFeeds]
  rw [afterFeeds_append, after, ← List.append_assoc, inkedLines_append, noInk,
    List.append_nil] at whole
  exact whole

/-! ## Whole templates -/

/-- The names asked, by way of the state, and the inked lines: both forms of a template lead to the
same state, and the lines of the indented one have the indent in front. -/
theorem expandLevels_indentBlock
    (pads : ∀ c ∈ indent, isPad c)
    (levels : Nat)
    (t : Text)
    (state : σ) :
    let plain := expandLevels ask levels t state
    let moved := expandLevels ask levels (indentBlock indent t) state
    moved.2 = plain.2 ∧ inkedLines moved.1 = (inkedLines plain.1).map (indent ++ ·) := by
  by_cases some_indent : indent = []
  · subst some_indent
    simp [indentBlock]
  have plainOfBlank : ∀ {line : Text}, isBlankLine line = true → '{' ∉ line := by
    intro line blank member
    have braceBlank := List.all_eq_true.1 blank '{' member
    revert braceBlank
    decide
  induction t using lineInduction generalizing state with
  | last a clean =>
      rw [indentBlock_of_no_feed some_indent clean]
      cases blank : isBlankLine a with
      | true =>
          -- The indented template drops this line, and its expansion has no ink to lose.
          rw [if_pos rfl, expandLevels_of_no_brace ask levels (plainOfBlank blank),
            expandLevels_of_no_brace ask levels List.not_mem_nil]
          refine ⟨rfl, ?_⟩
          rw [inkedLines_of_blank clean blank]
          rfl
      | false =>
          rw [if_neg (by simp), expandLevels_indent_line ask pads levels clean]
          exact ⟨rfl, inkedLines_afterFeeds pads _⟩
  | line a rest clean ih =>
      rw [indentBlock_append_feed some_indent clean]
      cases blank : isBlankLine a with
      | true =>
          obtain ⟨sameState, sameLines⟩ := ih state
          rw [if_pos rfl, List.nil_append]
          simp only [expandLevels_append_feed,
            expandLevels_of_no_brace ask levels (plainOfBlank blank)]
          refine ⟨sameState, ?_⟩
          rw [inkedLines_append_feed clean, inkedLines_append_feed clean, sameLines]
          simp [inked, blank]
      | false =>
          obtain ⟨sameState, sameLines⟩ := ih (expandLevels ask levels a state).2
          rw [if_neg (by simp)]
          simp only [expandLevels_append_feed, expandLevels_indent_line ask pads levels clean]
          refine ⟨sameState, ?_⟩
          rw [inkedLines_append, inkedLines_append (expandLevels ask levels a state).1,
            inkedLines_afterFeeds_feed pads, sameLines, List.map_append]

/-- Moving a template to the right moves every line of its expansion by the same indent and asks the
same names. -/
theorem expand_indentBlock
    (pads : ∀ c ∈ indent, isPad c)
    (template : Text)
    (state : σ) :
    let plain := expand ask template state
    let moved := expand ask (indentBlock indent template) state
    asked ask (indentBlock indent template) state = asked ask template state ∧
      moved.2 = plain.2 ∧
      inkedLines moved.1 = inkedLines (indentBlock indent plain.1) ∧
      inkedLines moved.1 = (inkedLines plain.1).map (indent ++ ·) := by
  have logged := expandLevels_indentBlock ask.logged pads depthLimit template ([], state)
  have moved := expandLevels_indentBlock ask pads depthLimit template state
  simp only [asked, expand_eq_expandLevels]
  refine ⟨congrArg Prod.fst logged.1, moved.1, ?_, moved.2⟩
  rw [inkedLines_indentBlock (lineFeed_not_mem_of_isPad pads)]
  exact moved.2

/-- A value of several lines with another one inside, after ink and after blanks. -/
theorem expand_indentBlock_nested :
    let values : Table Text :=
      [("v".toList, "\nx\n\n  {w}\n".toList), ("w".toList, "1\n2".toList)]
    let template := "key: {v}{w}\n \n  {v}".toList
    (∀ c ∈ "\t ".toList, isPad c) ∧
      inkedLines (expand (.ofTexts values) (indentBlock "\t ".toList template) ()).1 =
        ["\t key: x\n".toList, "\t   1\n".toList, "\t   21\n".toList, "\t 2\n".toList,
          "\t   x\n".toList, "\t     1\n".toList, "\t     2".toList] := by
  have pads : ∀ c ∈ "\t ".toList, isPad c := List.all_eq_true.1 (by decide)
  refine ⟨pads, ?_⟩
  rw [(expand_indentBlock _ pads _ _).2.2.2, expand_eq_expandLevels]
  decide +kernel

end Stencil.Expansion
