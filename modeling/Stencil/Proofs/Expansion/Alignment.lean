import Stencil.Expansion.Align
import Stencil.Proofs.Block.Edges
import Stencil.Proofs.Block.Lines

/-!
Aligned values.  A value without its edges does not end in a line feed, so hanging it puts the
margin after every line feed.  More indent before a placeholder is more indent after the line feeds
of its value.
-/
namespace Stencil

open Text

namespace Expansion

open Block

/-- A text with an indent after every line feed. -/
def afterFeeds (indent t : Text) : Text :=
  t.flatMap fun c => if c = '\n' then '\n' :: indent else [c]

@[simp]
theorem afterFeeds_append (indent a b : Text) :
    afterFeeds indent (a ++ b) = afterFeeds indent a ++ afterFeeds indent b :=
  List.flatMap_append

@[simp]
theorem afterFeeds_feed (indent t : Text) :
    afterFeeds indent ('\n' :: t) = '\n' :: (indent ++ afterFeeds indent t) := by
  simp [afterFeeds]

theorem afterFeeds_of_no_feed
    (indent : Text)
    {t : Text}
    (clean : '\n' ∉ t) :
    afterFeeds indent t = t := by
  induction t with
  | nil => rfl
  | cons c t ih =>
      obtain ⟨other, clean⟩ : '\n' ≠ c ∧ '\n' ∉ t := by simpa using clean
      have single : afterFeeds indent [c] = [c] := by simp [afterFeeds, Ne.symm other]
      rw [← List.singleton_append, afterFeeds_append, single, ih clean]

theorem afterFeeds_afterFeeds
    (indent : Text)
    {margin : Text}
    (clean : '\n' ∉ margin)
    (t : Text) :
    afterFeeds indent (afterFeeds margin t) = afterFeeds (indent ++ margin) t := by
  induction t using lineInduction with
  | last a noFeed => simp only [afterFeeds_of_no_feed _ noFeed]
  | line a rest noFeed ih =>
      simp only [afterFeeds_append, afterFeeds_feed, afterFeeds_of_no_feed _ noFeed,
        afterFeeds_of_no_feed indent clean, ih, List.append_assoc]

/-! ## Hanging -/

theorem flatMap_lines
    (margin : Text)
    {t : Text}
    (nonempty : t ≠ [])
    (unfed : t.getLast? ≠ some '\n') :
    (lines t).flatMap (margin ++ ·) = margin ++ afterFeeds margin t := by
  induction t using lineInduction with
  | last a clean => simp [lines_of_no_feed clean nonempty, afterFeeds_of_no_feed margin clean]
  | line a rest clean ih =>
      have more : rest ≠ [] := by
        rintro rfl
        simp at unfed
      obtain ⟨c, cs, rfl⟩ := List.exists_cons_of_ne_nil more
      have unfed' : (c :: cs).getLast? ≠ some '\n' := by
        simpa [List.getLast?_append, List.getLast?_cons_cons] using unfed
      rw [lines_append_feed clean, List.flatMap_cons, ih more unfed', afterFeeds_append,
        afterFeeds_of_no_feed margin clean, afterFeeds_feed]
      simp

theorem hang_eq_afterFeeds
    (margin : Text)
    {t : Text}
    (unfed : t.getLast? ≠ some '\n') :
    hang margin t = afterFeeds margin t := by
  by_cases empty : t = []
  · subst empty
    rfl
  have spread := flatMap_lines margin empty unfed
  unfold hang
  cases split : lines t with
  | nil =>
      rw [split] at spread
      exact (List.append_eq_nil_iff.1 spread.symm).2.symm
  | cons first others =>
      rw [split, List.flatMap_cons, List.append_assoc] at spread
      exact List.append_cancel_left spread

/-- The lines of an aligned value start with the margin of its placeholder, the first one apart. -/
theorem align_eq_afterFeeds (value lead : Text) :
    align value lead = afterFeeds (marginOf lead) (trimEdges value) := by
  by_cases fed : '\n' ∈ trimEdges value
  · simp only [align, if_pos fed]
    exact hang_eq_afterFeeds _ (getLast?_trimEdges value)
  · simp only [align, if_neg fed, afterFeeds_of_no_feed _ fed]

/-- A value of one line that ends with no space and no tab stays as it is. -/
theorem align_of_no_feed
    {value : Text}
    (clean : '\n' ∉ value)
    (ends : ∀ c ∈ value.getLast?, isPad c = false)
    (lead : Text) :
    align value lead = value := by
  rw [align_eq_afterFeeds, trimEdges_of_no_feed clean ends, afterFeeds_of_no_feed _ clean]

/-! ## Margins -/

theorem lineFeed_not_mem_leadOf (passed : Text) : '\n' ∉ leadOf passed := by
  intro member
  have inLine := List.all_eq_true.1 List.all_takeWhile '\n' (List.mem_reverse.1 member)
  simp at inLine

theorem marginOf_of_ink
    {lead : Text}
    (clean : '\n' ∉ lead)
    (ink : isBlankLine lead = false) :
    marginOf lead = leadingPad lead := by
  simp [marginOf, ink, commonIndent, inkedLines_of_no_feed clean, inked, shortest]

theorem lineFeed_not_mem_marginOf
    {lead : Text}
    (clean : '\n' ∉ lead) :
    '\n' ∉ marginOf lead := by
  cases blank : isBlankLine lead with
  | true => simpa [marginOf, blank] using clean
  | false =>
      rw [marginOf_of_ink clean blank]
      exact fun member => clean ((List.takeWhile_subset isPad) member)

theorem isBlank_of_mem_marginOf
    {lead : Text}
    (clean : '\n' ∉ lead)
    {c : Char}
    (member : c ∈ marginOf lead) :
    isBlank c := by
  cases blank : isBlankLine lead with
  | true =>
      rw [marginOf, if_pos blank] at member
      exact List.all_eq_true.1 blank c member
  | false =>
      rw [marginOf_of_ink clean blank] at member
      exact isBlank_of_isPad (List.all_eq_true.1 List.all_takeWhile c member)

/-- An indent before a placeholder adds to its margin, whether or not ink stands before it. -/
theorem marginOf_indent
    {indent lead : Text}
    (pads : ∀ c ∈ indent, isPad c)
    (clean : '\n' ∉ lead) :
    marginOf (indent ++ lead) = indent ++ marginOf lead := by
  have indentBlank := isBlankLine_of_isPad pads
  cases blank : isBlankLine lead with
  | true => simp [marginOf, blank, indentBlank]
  | false =>
      have clean' : '\n' ∉ indent ++ lead := by
        simp [clean, lineFeed_not_mem_of_isPad pads]
      rw [marginOf_of_ink clean blank, marginOf_of_ink clean' (by simp [blank])]
      exact List.takeWhile_append_of_pos pads

theorem align_indent
    {indent lead : Text}
    (pads : ∀ c ∈ indent, isPad c)
    (clean : '\n' ∉ lead)
    (value : Text) :
    align value (indent ++ lead) = afterFeeds indent (align value lead) := by
  rw [align_eq_afterFeeds, align_eq_afterFeeds, marginOf_indent pads clean,
    afterFeeds_afterFeeds indent (lineFeed_not_mem_marginOf clean)]

end Expansion

end Stencil
