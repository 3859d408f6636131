import Stencil.Proofs.Block.CommonIndent
import Stencil.Proofs.Block.Patterns

/-!
Texts without edges and without a common indent.  Taking the common indent off a trimmed text makes
no line of it blank and does not touch its end, so there is nothing to trim afterwards, and nothing
more to take off.
-/
namespace Stencil.Block

open Text

/-- A text that neither begins with a blank line nor ends with a space, a tab or a line feed, and
that has no common indent. -/
structure IsFlush (t : Text) : Prop where
  starts : ∀ pads lineEnd, (∀ c ∈ pads, isPad c) → IsLineEnd lineEnd → ¬ pads ++ lineEnd <+: t
  ends : ∀ c ∈ t.getLast?, isPad c = false ∧ c ≠ '\n'
  indent : commonIndent t = []

/-! ## Texts that stay as they are -/

theorem trimEdges_of_isFlush
    {t : Text}
    (flush : IsFlush t) :
    trimEdges t = t := by
  refine trimEdges_of_ends (fun l inside blank => ?_) flush.ends
  cases blank with
  | nil => rfl
  | line pads lineEnd _ =>
      exact absurd ((List.prefix_append _ _).trans inside) (flush.starts _ _ pads lineEnd)

theorem stripLines_nil (block : Text) : stripLines [] block = block := by
  have kept : stripIndent [] = id := funext fun line => stripIndent_append [] line
  rw [stripLines, kept, List.flatMap_id, flatten_lines]

theorem dedent_eq (t : Text) :
    dedent t = stripLines (commonIndent (trimEdges t)) (trimEdges t) :=
  rfl

theorem dedent_of_isFlush
    {t : Text}
    (flush : IsFlush t) :
    dedent t = t := by
  rw [dedent_eq, trimEdges_of_isFlush flush, flush.indent, stripLines_nil]

/-! ## What is left of a trimmed text -/

/-- A blank line at the beginning of a text is the first line of the text. -/
theorem eq_line_of_starts
    {pads lineEnd a rest : Text}
    (blank : ∀ c ∈ pads, isPad c)
    (ends : IsLineEnd lineEnd)
    (clean : '\n' ∉ a)
    (starts : pads ++ lineEnd <+: a ++ '\n' :: rest) :
    pads ++ lineEnd = a ++ ['\n'] := by
  obtain ⟨before, rfl, clean'⟩ := ends.exists_eq
  obtain ⟨more, parts⟩ := starts
  have noFeed : '\n' ∉ pads ++ before := by simp [lineFeed_not_mem_of_isPad blank, clean']
  rw [← List.append_assoc, List.append_assoc _ ['\n'], List.singleton_append] at parts
  have split := congrArg lines parts
  rw [lines_append_feed noFeed, lines_append_feed clean] at split
  rw [← List.append_assoc, (List.cons.inj split).1]

/-- A line that is blank without an indent was blank before. -/
theorem starts_of_starts_stripLines
    {indent pads lineEnd block : Text}
    (indentPads : ∀ c ∈ indent, isPad c)
    (blank : ∀ c ∈ pads, isPad c)
    (ends : IsLineEnd lineEnd)
    (starts : pads ++ lineEnd <+: stripLines indent block) :
    ∃ before, (∀ c ∈ before, isPad c) ∧ before ++ lineEnd <+: block := by
  induction block using lineInduction with
  | last a clean =>
      rw [stripLines_of_no_feed indent clean] at starts
      have member := starts.mem (List.mem_append_right pads ends.feed_mem)
      exact absurd member (lineFeed_not_mem_stripIndent clean indent)
  | line a rest clean _ =>
      rw [stripLines_append_feed (lineFeed_not_mem_of_isPad indentPads) clean] at starts
      have first := eq_line_of_starts blank ends (lineFeed_not_mem_stripIndent clean indent) starts
      rw [← stripIndent_append_feed (lineFeed_not_mem_of_isPad indentPads)] at first
      have inside : a ++ ['\n'] <+: a ++ '\n' :: rest := ⟨rest, by simp⟩
      by_cases indented : indent <+: a ++ ['\n']
      · obtain ⟨line, whole⟩ := indented
        rw [← whole, stripIndent_append] at first
        refine ⟨indent ++ pads, List.forall_mem_append.2 ⟨indentPads, blank⟩, ?_⟩
        rwa [List.append_assoc, first, whole]
      · rw [stripIndent_of_apart indented] at first
        exact ⟨pads, blank, first.symm ▸ inside⟩

theorem getLast?_stripLines
    {indent block : Text}
    (pads : ∀ c ∈ indent, isPad c)
    (ends : ∀ c ∈ block.getLast?, isPad c = false) :
    (stripLines indent block).getLast? = block.getLast? := by
  induction block using lineInduction with
  | last a clean =>
      rw [stripLines_of_no_feed indent clean]
      by_cases starts : indent <+: a
      · obtain ⟨rest, rfl⟩ := starts
        rw [stripIndent_append, List.getLast?_append]
        cases last : rest.getLast? with
        | some c => rfl
        | none =>
            cases front : indent.getLast? with
            | none => rfl
            | some c =>
                have inked := ends c (by rw [List.getLast?_append, last, front]; rfl)
                rw [pads c (List.mem_of_getLast? front)] at inked
                cases inked
      · rw [stripIndent_of_apart starts]
  | line a rest clean ih =>
      rw [stripLines_append_feed (lineFeed_not_mem_of_isPad pads) clean, List.getLast?_append,
        List.getLast?_append, List.getLast?_cons, List.getLast?_cons, ih]
      · rfl
      · exact fun c last => ends c (mem_getLast?_append_cons last a '\n')

/-! ## Once and for all -/

theorem isFlush_dedent (t : Text) : IsFlush (dedent t) := by
  have cuts := cuts_edges t
  rw [dedent_eq, trimEdges_eq_body]
  have pads := isPad_of_mem_commonIndent (edges t).body
  have inked : ∀ c ∈ (edges t).body.getLast?, isPad c = false ∧ c ≠ '\n' := by
    intro c last
    have firm := firm_edges t c last
    exact ⟨Bool.eq_false_iff.2 fun pad => firm (.inl pad), fun feed => firm (.inr (.inl feed))⟩
  refine ⟨fun before lineEnd blank ends starts => ?_, ?_, commonIndent_stripLines _⟩
  · obtain ⟨front, frontPads, inside⟩ := starts_of_starts_stripLines pads blank ends starts
    have none := cuts.inked _ inside (.single frontPads ends)
    exact List.ne_nil_of_mem (List.mem_append_right front ends.feed_mem) none
  · rw [getLast?_stripLines pads fun c last => (inked c last).1]
    exact inked

/-- Trimming a text and taking its common indent off leaves no blank line at its beginning, no
space, tab or line feed at its end and no common indent, so doing it again changes nothing. -/
theorem dedented_for_good (t : Text) :
    (∃ body, trySettleEdges t .suppress .suppress = .ok body ∧
      deindent none body false = .ok (dedent t)) ∧
    IsFlush (dedent t) ∧ dedent (dedent t) = dedent t := by
  refine ⟨⟨trimEdges t, trySettleEdges_eq t .suppress .suppress, ?_⟩, isFlush_dedent t,
    dedent_of_isFlush (isFlush_dedent t)⟩
  exact deindent_lenient (commonIndent (trimEdges t)) (trimEdges t)

end Stencil.Block
