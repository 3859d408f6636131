import Stencil.Proofs.Block.Stripping

/-!
Indents act on blocks.  Putting on one indent and then another puts on both at once, every line
between is indented or left by itself, and an indent that was put on is taken off every inked line
again.
-/
namespace Stencil.Block

open Text

variable {indent : Text}

/-! ## Line by line -/

/-- What becomes of a line of a block under an indent.  An inked line gets it, and a blank one stays
as it is when it is ended; without an end it stays under the empty indent only. -/
def indentedLine (indent line : Text) : List Text :=
  if isBlankLine line then (if line.getLast? = some '\n' ∨ indent = [] then [line] else [])
  else [indent ++ line]

theorem indentedLine_nil (line : Text) : indentedLine [] line = [line] := by
  cases blank : isBlankLine line with
  | true => simp [indentedLine, blank]
  | false => simp [indentedLine, blank]

theorem indentedLine_append_feed (indent a : Text) :
    indentedLine indent (a ++ ['\n']) =
      [(if isBlankLine a then [] else indent) ++ a ++ ['\n']] := by
  cases blank : isBlankLine a with
  | true => simp [indentedLine, blank]
  | false => simp [indentedLine, blank]

theorem lineFeed_not_mem_indented
    {a : Text}
    (cleanIndent : '\n' ∉ indent)
    (clean : '\n' ∉ a) :
    '\n' ∉ (if isBlankLine a then [] else indent) ++ a := by
  intro member
  rcases List.mem_append.1 member with inIndent | inLine
  · split at inIndent
    · cases inIndent
    · exact cleanIndent inIndent
  · exact clean inLine

/-- The lines of an indented block are the lines of the block, each indented by itself. -/
theorem lines_indentBlock_eq
    (cleanIndent : '\n' ∉ indent)
    (block : Text) :
    lines (indentBlock indent block) = (lines block).flatMap (indentedLine indent) := by
  by_cases some_indent : indent = []
  · subst some_indent
    have same : indentBlock [] block = block := rfl
    have alone : indentedLine [] = fun line => [line] := funext indentedLine_nil
    rw [same, alone, List.flatMap_singleton']
  induction block using lineInduction with
  | last a clean =>
      rw [indentBlock_of_no_feed some_indent clean]
      by_cases empty : a = []
      · subst empty
        rfl
      · rw [lines_of_no_feed clean empty, List.flatMap_singleton, indentedLine]
        have unended : ¬ (a.getLast? = some '\n' ∨ indent = []) := by
          intro either
          rcases either with ended | none
          · exact clean (List.mem_of_getLast? ended)
          · exact some_indent none
        cases blank : isBlankLine a with
        | true =>
            rw [if_pos rfl, if_pos rfl, if_neg unended]
            rfl
        | false =>
            have some_left : indent ++ a ≠ [] := by
              intro none
              exact empty (List.append_eq_nil_iff.1 none).2
            have clean' : '\n' ∉ indent ++ a := by simp [cleanIndent, clean]
            rw [if_neg Bool.false_ne_true, if_neg Bool.false_ne_true,
              lines_of_no_feed clean' some_left]
  | line a rest clean ih =>
      rw [indentBlock_append_feed some_indent clean, lines_append_feed clean, List.flatMap_cons,
        indentedLine_append_feed, ← ih,
        lines_append_feed (lineFeed_not_mem_indented cleanIndent clean), List.singleton_append]

/-! ## One indent after another -/

theorem indentBlock_indentBlock
    (cleanIndent : '\n' ∉ indent)
    (outer block : Text) :
    indentBlock (outer ++ indent) block = indentBlock outer (indentBlock indent block) := by
  by_cases some_outer : outer = []
  · subst some_outer
    rfl
  by_cases some_indent : indent = []
  · subst some_indent
    rw [List.append_nil]
    rfl
  have some_both : outer ++ indent ≠ [] := by
    intro none
    exact some_outer (List.append_eq_nil_iff.1 none).1
  induction block using lineInduction with
  | last a clean =>
      rw [indentBlock_of_no_feed some_both clean, indentBlock_of_no_feed some_indent clean]
      cases blank : isBlankLine a with
      | true =>
          rw [if_pos rfl, if_pos rfl, indentBlock_of_no_feed some_outer List.not_mem_nil]
          rfl
      | false =>
          have clean' : '\n' ∉ indent ++ a := by simp [cleanIndent, clean]
          rw [if_neg Bool.false_ne_true, if_neg Bool.false_ne_true,
            indentBlock_of_no_feed some_outer clean', isBlankLine_append, blank, Bool.and_false,
            if_neg Bool.false_ne_true, List.append_assoc]
  | line a rest clean ih =>
      rw [indentBlock_append_feed some_both clean, indentBlock_append_feed some_indent clean,
        indentBlock_append_feed some_outer (lineFeed_not_mem_indented cleanIndent clean), ih]
      cases blank : isBlankLine a with
      | true => simp [blank]
      | false => simp [blank]

/-! ## Taking an indent off again -/

theorem isBlankLine_stripIndent_of_blank
    {line : Text}
    (blank : isBlankLine line)
    (indent : Text) :
    isBlankLine (stripIndent indent line) := by
  by_cases starts : indent <+: line
  · obtain ⟨rest, parts⟩ := starts
    subst parts
    rw [isBlankLine_append, Bool.and_eq_true] at blank
    rw [stripIndent_append]
    exact blank.2
  · rwa [stripIndent_of_apart starts]

/-- An indent may consist of any characters: blank lines stay blank without it. -/
theorem inkedLines_strip_indentBlock
    (cleanIndent : '\n' ∉ indent)
    (block : Text) :
    inkedLines (stripLines indent (indentBlock indent block)) = inkedLines block := by
  by_cases some_indent : indent = []
  · subst some_indent
    have kept : stripIndent [] = id := funext fun line => stripIndent_append [] line
    have same : stripLines [] block = block := by
      rw [stripLines, kept, List.flatMap_id]
      exact flatten_lines block
    exact congrArg inkedLines same
  induction block using lineInduction with
  | last a clean =>
      rw [indentBlock_of_no_feed some_indent clean]
      cases blank : isBlankLine a with
      | true =>
          rw [if_pos rfl, stripLines_of_no_feed indent List.not_mem_nil,
            inkedLines_of_blank clean blank]
          cases indent with
          | nil => rfl
          | cons c cs => rfl
      | false =>
          have clean' : '\n' ∉ indent ++ a := by simp [cleanIndent, clean]
          rw [if_neg Bool.false_ne_true, stripLines_of_no_feed indent clean', stripIndent_append]
  | line a rest clean ih =>
      have clean' := lineFeed_not_mem_indented cleanIndent clean
      rw [indentBlock_append_feed some_indent clean, stripLines_append_feed cleanIndent clean',
        inkedLines_append_feed (lineFeed_not_mem_stripIndent clean' indent),
        inkedLines_append_feed clean, ih]
      apply congrArg (· ++ inkedLines rest)
      cases blank : isBlankLine a with
      | true =>
          have blank' := isBlankLine_stripIndent_of_blank blank indent
          simp [inked, blank, blank']
      | false => rw [if_neg Bool.false_ne_true, stripIndent_append]

theorem deindent_indentBlock
    (cleanIndent : '\n' ∉ indent)
    (block : Text)
    (strict : Bool) :
    deindent (some indent) (indentBlock indent block) strict =
      .ok (stripLines indent (indentBlock indent block)) := by
  apply deindent_of_shared
  intro line member
  rw [inkedLines_indentBlock cleanIndent] at member
  obtain ⟨rest, _, parts⟩ := List.mem_map.1 member
  exact ⟨rest, parts⟩

/-! ## Both -/

/-- Two indents put on one after the other are one, when the inner one stands on one line.  Then
every line is indented by itself: the inked lines get the indent, and an ended blank line stays as
it is.  Taking the indent off again is never refused and leaves the inked lines of the block. -/
theorem indents_act
    (cleanIndent : '\n' ∉ indent)
    (outer block : Text) :
    indentBlock (outer ++ indent) block = indentBlock outer (indentBlock indent block) ∧
      inkedLines (indentBlock indent block) = (inkedLines block).map (indent ++ ·) ∧
      lines (indentBlock indent block) = (lines block).flatMap (indentedLine indent) ∧
      ∃ stripped, deindent (some indent) (indentBlock indent block) true = .ok stripped ∧
        inkedLines stripped = inkedLines block := by
  refine ⟨indentBlock_indentBlock cleanIndent outer block,
    inkedLines_indentBlock cleanIndent block, lines_indentBlock_eq cleanIndent block, ?_⟩
  exact ⟨_, deindent_indentBlock cleanIndent block true,
    inkedLines_strip_indentBlock cleanIndent block⟩

/-- An inner indent with ink, an outer one with a line feed, and blank lines that are ended or not. -/
theorem indents_act_quote :
    let block := "a\n > \n> b\n \t\n  ".toList
    '\n' ∉ "> ".toList ∧
      indentBlock "\n> ".toList block =
        indentBlock "\n".toList "> a\n>  > \n> > b\n \t\n".toList ∧
      lines (indentBlock "> ".toList block) =
        ["> a\n".toList, ">  > \n".toList, "> > b\n".toList, " \t\n".toList] ∧
      ∃ stripped, deindent (some "> ".toList) (indentBlock "> ".toList block) true = .ok stripped ∧
        inkedLines stripped = ["a\n".toList, " > \n".toList, "> b\n".toList] := by
  intro block
  have clean : '\n' ∉ "> ".toList := by decide
  obtain ⟨twice, _, each, stripped, ran, back⟩ := indents_act clean "\n".toList block
  exact ⟨clean, twice.trans (by decide), each.trans (by decide), stripped, ran,
    back.trans (by decide)⟩

end Stencil.Block
