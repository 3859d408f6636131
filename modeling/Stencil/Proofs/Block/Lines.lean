import Stencil.Block.Indent

/-!
Lines by their line feeds: a text is a last line without a line feed, or a line and its line feed
before a text.  The lines, the inked lines and the indented form of a text follow these two cases.
-/
namespace Stencil

namespace Text

theorem isBlank_of_isPad
    {c : Char}
    (pad : isPad c) :
    isBlank c := by
  simp only [isPad, Bool.or_eq_true, beq_iff_eq] at pad
  rcases pad with rfl | rfl <;> decide

theorem lineFeed_not_mem_of_isPad
    {indent : Text}
    (pads : ∀ c ∈ indent, isPad c) :
    '\n' ∉ indent := by
  intro member
  have pad := pads '\n' member
  revert pad
  decide

end Text

namespace Block

open Text

/-! ## The two cases -/

@[elab_as_elim]
theorem lineInduction
    {motive : Text → Prop}
    (last : ∀ a, '\n' ∉ a → motive a)
    (line : ∀ a rest, '\n' ∉ a → motive rest → motive (a ++ '\n' :: rest))
    (t : Text) :
    motive t := by
  induction size : t.length using Nat.strongRecOn generalizing t with
  | ind bound ih =>
      subst size
      by_cases fed : '\n' ∈ t
      · obtain ⟨a, rest, rfl, clean⟩ := List.eq_append_cons_of_mem fed
        have shorter : rest.length < (a ++ '\n' :: rest).length := by
          simp only [List.length_append, List.length_cons]
          omega
        exact line a rest clean (ih rest.length shorter rest rfl)
      · exact last t fed

theorem lines_of_no_feed
    {a : Text}
    (clean : '\n' ∉ a)
    (nonempty : a ≠ []) :
    lines a = [a] := by
  induction a with
  | nil => exact absurd rfl nonempty
  | cons c a ih =>
      obtain ⟨other, clean⟩ : '\n' ≠ c ∧ '\n' ∉ a := by simpa using clean
      cases a with
      | nil => simp [lines, consHead, Ne.symm other]
      | cons d a =>
          rw [lines, if_neg (Ne.symm other), ih clean (List.cons_ne_nil d a)]
          rfl

theorem lines_append_feed
    {a : Text}
    (clean : '\n' ∉ a)
    (rest : Text) :
    lines (a ++ '\n' :: rest) = (a ++ ['\n']) :: lines rest := by
  induction a with
  | nil => rfl
  | cons c a ih =>
      obtain ⟨other, clean⟩ : '\n' ≠ c ∧ '\n' ∉ a := by simpa using clean
      rw [List.cons_append, lines, if_neg (Ne.symm other), ih clean]
      rfl

/-! ## Blank lines -/

@[simp]
theorem isBlankLine_append (a b : Text) :
    isBlankLine (a ++ b) = (isBlankLine a && isBlankLine b) := by
  simp [isBlankLine]

@[simp]
theorem isBlankLine_feed : isBlankLine ['\n'] := by
  decide

theorem isBlankLine_of_isPad
    {indent : Text}
    (pads : ∀ c ∈ indent, isPad c) :
    isBlankLine indent :=
  List.all_eq_true.2 fun c member => isBlank_of_isPad (pads c member)

/-- A line as a list of inked lines: nothing when it is blank. -/
def inked (line : Text) : List Text :=
  if isBlankLine line then [] else [line]

theorem inkedLines_of_no_feed
    {a : Text}
    (clean : '\n' ∉ a) :
    inkedLines a = inked a := by
  by_cases empty : a = []
  · subst empty
    rfl
  · cases blank : isBlankLine a <;> simp [inkedLines, inked, lines_of_no_feed clean empty, blank]

theorem inkedLines_of_blank
    {a : Text}
    (clean : '\n' ∉ a)
    (blank : isBlankLine a = true) :
    inkedLines a = [] := by
  rw [inkedLines_of_no_feed clean, inked, if_pos blank]

theorem inkedLines_append_feed
    {a : Text}
    (clean : '\n' ∉ a)
    (rest : Text) :
    inkedLines (a ++ '\n' :: rest) = inked (a ++ ['\n']) ++ inkedLines rest := by
  cases blank : isBlankLine a <;> simp [inkedLines, inked, lines_append_feed clean, blank]

/-- What stands on a line above does not change the inked lines below. -/
theorem inkedLines_append
    (a rest : Text) :
    inkedLines (a ++ '\n' :: rest) = inkedLines (a ++ ['\n']) ++ inkedLines rest := by
  induction a using lineInduction with
  | last a clean =>
      rw [inkedLines_append_feed clean, inkedLines_append_feed clean]
      simp [inkedLines, lines]
  | line a more clean ih =>
      rw [List.append_assoc, List.cons_append, inkedLines_append_feed clean, ih,
        List.append_assoc, List.cons_append, inkedLines_append_feed clean, List.append_assoc]

/-! ## Indented blocks -/

theorem indentBlock_of_no_feed
    {indent a : Text}
    (some_indent : indent ≠ [])
    (clean : '\n' ∉ a) :
    indentBlock indent a = if isBlankLine a then [] else indent ++ a := by
  have last : a.getLast? ≠ some '\n' := fun found => clean (List.mem_of_getLast? found)
  by_cases empty : a = []
  · subst empty
    simp [indentBlock, lines, isBlankLine]
  · simp [indentBlock, some_indent, lines_of_no_feed clean empty, indentLine, last]

theorem indentBlock_append_feed
    {indent a : Text}
    (some_indent : indent ≠ [])
    (clean : '\n' ∉ a)
    (rest : Text) :
    indentBlock indent (a ++ '\n' :: rest) =
      (if isBlankLine a then [] else indent) ++ a ++ '\n' :: indentBlock indent rest := by
  cases blank : isBlankLine a <;>
    simp [indentBlock, some_indent, lines_append_feed clean, indentLine, blank]

theorem inked_indent
    (indent : Text)
    {line : Text}
    (ink : isBlankLine line = false) :
    inked (indent ++ line) = (inked line).map (indent ++ ·) := by
  simp [inked, ink]

/-- An indent is put before every inked line and nowhere else. -/
theorem inkedLines_indentBlock
    {indent : Text}
    (clean : '\n' ∉ indent)
    (block : Text) :
    inkedLines (indentBlock indent block) = (inkedLines block).map (indent ++ ·) := by
  by_cases some_indent : indent = []
  · subst some_indent
    simp [indentBlock]
  induction block using lineInduction with
  | last a noFeed =>
      have noFeed' : '\n' ∉ indent ++ a := by simp [clean, noFeed]
      rw [indentBlock_of_no_feed some_indent noFeed]
      cases blank : isBlankLine a with
      | true =>
          rw [if_pos rfl, inkedLines_of_blank noFeed blank]
          rfl
      | false =>
          rw [if_neg (by simp), inkedLines_of_no_feed noFeed', inkedLines_of_no_feed noFeed,
            inked_indent indent blank]
  | line a rest noFeed ih =>
      have noFeed' : '\n' ∉ indent ++ a := by simp [clean, noFeed]
      rw [indentBlock_append_feed some_indent noFeed, inkedLines_append_feed noFeed,
        List.map_append, ← ih]
      cases blank : isBlankLine a with
      | true =>
          rw [if_pos rfl, List.nil_append, inkedLines_append_feed noFeed]
          simp [inked, blank]
      | false =>
          have ink : isBlankLine (a ++ ['\n']) = false := by simp [blank]
          rw [if_neg (by simp), inkedLines_append_feed noFeed', ← inked_indent indent ink,
            List.append_assoc]

/-! ## Removing an indent -/

theorem deindentLine_append (indent line : Text) (strict : Bool) :
    deindentLine indent (indent ++ line) strict = .ok line := by
  have starts : indent.isPrefixOf (indent ++ line) :=
    List.isPrefixOf_iff_prefix.2 (List.prefix_append indent line)
  simp [deindentLine, stripIndent, starts]

theorem deindent_append
    {indent a : Text}
    (clean : '\n' ∉ indent ++ a)
    (strict : Bool) :
    deindent (some indent) (indent ++ a) strict = .ok a := by
  by_cases empty : indent ++ a = []
  · rw [empty, (List.append_eq_nil_iff.1 empty).2]
    rfl
  · rw [deindent, lines_of_no_feed clean empty, Option.getD_some, List.mapM_cons, List.mapM_nil,
      deindentLine_append]
    exact congrArg Except.ok (List.append_nil a)

theorem deindent_append_feed
    {indent a : Text}
    (clean : '\n' ∉ indent ++ a)
    (rest : Text)
    (strict : Bool) :
    deindent (some indent) (indent ++ a ++ '\n' :: rest) strict =
      (deindent (some indent) rest strict).map (a ++ '\n' :: ·) := by
  simp only [deindent, Option.getD_some]
  rw [lines_append_feed clean, List.mapM_cons, List.append_assoc, deindentLine_append]
  cases (lines rest).mapM fun line => deindentLine indent line strict with
  | error e => rfl
  | ok stripped => simp [bind, Except.bind, pure, Except.pure, Except.map]

end Block

end Stencil
