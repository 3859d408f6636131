import Stencil.Proofs.Block.Patterns

/-!
Trimming the edges of a text again and again.  Line ends that are put back are found again, with two
exceptions: one put after a carriage return takes it along the next time, and one put after a text of
spaces and tabs counts as one before it the next time.
-/
namespace Stencil.Block

open Text

/-! ## Line ends put back -/

theorem lineEnd_cases (mode : EdgeMode) (present : Bool) :
    mode.lineEnd present = [] ∨ mode.lineEnd present = ['\n'] := by
  cases mode <;> cases present <;> simp [EdgeMode.lineEnd]

theorem blankLines_lineEnd (mode : EdgeMode) (present : Bool) :
    BlankLines (mode.lineEnd present) := by
  rcases lineEnd_cases mode present with none | feed
  · rw [none]
    exact .nil
  · rw [feed]
    exact .line (List.forall_mem_nil _) (.inl rfl) .nil

theorem carriage_not_mem_lineEnd (mode : EdgeMode) (present : Bool) :
    '\r' ∉ mode.lineEnd present := by
  rcases lineEnd_cases mode present with none | feed
  · simp [none]
  · simp [feed]

theorem lineEnd_nonempty (mode : EdgeMode) (present : Bool) :
    mode.lineEnd (!(mode.lineEnd present).isEmpty) = mode.lineEnd present := by
  cases mode <;> cases present <;> rfl

theorem lineEnd_contains (mode : EdgeMode) (present : Bool) :
    mode.lineEnd ((mode.lineEnd present).contains '\n') = mode.lineEnd present := by
  cases mode <;> cases present <;> rfl

/-! ## Texts with a body -/

/-- A line end is put right after a carriage return. -/
def Edges.JoinsCarriage (e : Edges) (tail : EdgeMode) : Prop :=
  e.body.getLast? = some '\r' ∧ tail.lineEnd (e.tail.contains '\n') ≠ []

theorem Edges.Cuts.firm
    {e : Edges}
    {t : Text}
    (cuts : e.Cuts t) :
    Firm e.body e.tail :=
  cuts.eq_edges ▸ firm_edges t

theorem firm_lineEnd
    {e : Edges}
    {t : Text}
    {tail : EdgeMode}
    (cuts : e.Cuts t)
    (apart : ¬ e.JoinsCarriage tail) :
    Firm e.body (tail.lineEnd (e.tail.contains '\n')) := by
  intro c last trails
  rcases trails with pad | feed | ⟨rfl, following⟩
  · exact cuts.firm c last (.inl pad)
  · exact cuts.firm c last (.inr (.inl feed))
  · refine apart ⟨last, fun none => ?_⟩
    rw [none] at following
    cases following

theorem settled_again
    {e : Edges}
    {t : Text}
    {tail : EdgeMode}
    (cuts : e.Cuts t)
    (some_body : e.body ≠ [])
    (apart : ¬ e.JoinsCarriage tail)
    (head : EdgeMode) :
    trySettleEdges (e.settled head tail) head tail = .ok (e.settled head tail) := by
  have again : Edges.Cuts ⟨head.lineEnd (!e.head.isEmpty), e.body,
      tail.lineEnd (e.tail.contains '\n')⟩ (e.settled head tail) :=
    cuts_of_firm (blankLines_lineEnd _ _) some_body cuts.inked (blankLines_lineEnd _ _).blankTail
      (firm_lineEnd cuts apart)
  rw [trySettleEdges_of_cuts again, Edges.settled, lineEnd_nonempty, lineEnd_contains]
  rfl

theorem count_settled (e : Edges) (head tail : EdgeMode) :
    (e.settled head tail).count '\r' = e.body.count '\r' := by
  rw [Edges.settled, List.count_append, List.count_append,
    List.count_eq_zero_of_not_mem (carriage_not_mem_lineEnd _ _),
    List.count_eq_zero_of_not_mem (carriage_not_mem_lineEnd _ _), Nat.zero_add, Nat.add_zero]

/-- A text that trimming does not change has no carriage return at its edges. -/
theorem carriage_not_mem_edges
    {e : Edges}
    {t : Text}
    {head tail : EdgeMode}
    (cuts : e.Cuts t)
    (unchanged : e.settled head tail = t) :
    '\r' ∉ e.head ∧ '\r' ∉ e.tail := by
  have kept := congrArg (List.count '\r') (unchanged.trans cuts.whole)
  rw [count_settled, List.count_append, List.count_append] at kept
  exact ⟨List.count_eq_zero.1 (by omega), List.count_eq_zero.1 (by omega)⟩

/-- A carriage return and a line feed at the end of a text are at one of its edges. -/
theorem carriage_mem_edges
    {e : Edges}
    {front t : Text}
    (cuts : e.Cuts t)
    (ends : t = front ++ ['\r', '\n']) :
    '\r' ∈ e.head ∨ '\r' ∈ e.tail := by
  have parts : e.head ++ (e.body ++ e.tail) = front ++ ['\r', '\n'] := by
    rw [← ends, cuts.whole, List.append_assoc]
  have last : '\r' ∈ e.head ∨ ['\r', '\n'] <:+ e.body ++ e.tail := by
    rcases List.append_eq_append_iff.1 parts with ⟨more, _, rest⟩ | ⟨more, longer, rest⟩
    · exact .inr ⟨more, rest.symm⟩
    · cases more with
      | nil => exact .inr ⟨[], rest⟩
      | cons c more =>
          obtain ⟨rfl, -⟩ := List.cons.inj rest
          exact .inl (by rw [longer]; simp)
  refine last.imp_right fun suffix => ?_
  have lineEnd : BlankTail ['\r', '\n'] := .lineEnd (.inr rfl) .nil
  have long := cuts.tail.longest _ suffix lineEnd
  exact (List.suffix_of_suffix_length_le suffix cuts.tail.ends long).mem (by simp)

theorem not_settled_again
    {e : Edges}
    {tail : EdgeMode}
    (joins : e.JoinsCarriage tail)
    (head : EdgeMode) :
    trySettleEdges (e.settled head tail) head tail ≠ .ok (e.settled head tail) := by
  intro again
  obtain ⟨last, put⟩ := joins
  obtain ⟨front, body⟩ := List.getLast?_eq_some_iff.1 last
  have feed := (lineEnd_cases tail (e.tail.contains '\n')).resolve_left put
  have ends : e.settled head tail = head.lineEnd (!e.head.isEmpty) ++ front ++ ['\r', '\n'] := by
    rw [Edges.settled, feed, body]
    simp
  -- The carriage return is at an edge now, where an unchanged text has none.
  have cuts := cuts_edges (e.settled head tail)
  rw [trySettleEdges_of_cuts cuts] at again
  obtain ⟨noHead, noTail⟩ := carriage_not_mem_edges cuts (Except.ok.inj again)
  rcases carriage_mem_edges cuts ends with inHead | inTail
  · exact noHead inHead
  · exact noTail inTail

/-! ## Texts without a body -/

theorem BlankTail.pads_or_line
    {t : Text}
    (blank : BlankTail t) :
    (∀ c ∈ t, isPad c) ∨ ∃ pads lineEnd rest,
      t = pads ++ lineEnd ++ rest ∧ (∀ c ∈ pads, isPad c) ∧ IsLineEnd lineEnd := by
  induction blank with
  | nil => exact .inl (List.forall_mem_nil _)
  | pad pad _ ih =>
      rcases ih with pads | ⟨pads, lineEnd, rest, rfl, blank, ends⟩
      · exact .inl (List.forall_mem_cons.2 ⟨pad, pads⟩)
      · exact .inr ⟨_ :: pads, lineEnd, rest, rfl, List.forall_mem_cons.2 ⟨pad, blank⟩, ends⟩
  | lineEnd ends _ _ => exact .inr ⟨[], _, _, rfl, List.forall_mem_nil _, ends⟩

/-- Without a body, nothing but spaces and tabs follows the leading blank lines. -/
theorem Edges.Cuts.pads
    {e : Edges}
    {t : Text}
    (cuts : e.Cuts t)
    (none : e.body = []) :
    ∀ c ∈ e.tail, isPad c := by
  rcases cuts.tail.holds.pads_or_line with pads | ⟨pads, lineEnd, rest, parts, blank, ends⟩
  · exact pads
  · -- The head would be longer by this line.
    have starts : e.head ++ (pads ++ lineEnd) <+: t :=
      ⟨rest, by rw [cuts.whole, none, parts]; simp⟩
    have long := cuts.head.longest _ starts (cuts.head.holds.append (.single blank ends))
    have some_end := List.length_pos_of_mem ends.feed_mem
    rw [List.length_append, List.length_append] at long
    omega

theorem cuts_blankLines
    {t : Text}
    (lines : BlankLines t) :
    Edges.Cuts ⟨t, [], []⟩ t := by
  refine ⟨by simp, ⟨List.prefix_rfl, lines, fun b starts _ => starts.length_le⟩, ?_⟩
  exact ⟨List.suffix_rfl, .nil, fun b ends _ => ends.length_le⟩

theorem settled_again_bodiless
    {e : Edges}
    {t : Text}
    (cuts : e.Cuts t)
    (none : e.body = [])
    (head tail : EdgeMode) :
    trySettleEdges (e.settled head tail) head tail = .ok (e.settled head tail) ↔
      ¬ (e.head = [] ∧ head = .preserve ∧ tail = .force) := by
  have lines : BlankLines (e.settled head tail) := by
    rw [Edges.settled, none, List.append_nil]
    exact (blankLines_lineEnd _ _).append (blankLines_lineEnd _ _)
  have noFeed : e.tail.contains '\n' = false := by
    simpa using lineFeed_not_mem_of_isPad (cuts.pads none)
  rw [trySettleEdges_of_cuts (cuts_blankLines lines), Edges.settled, Edges.settled, none, noFeed]
  cases e.head <;> cases head <;> cases tail <;> simp [EdgeMode.lineEnd]

theorem BlankLines.eq_nil_of_pads
    {t : Text}
    (lines : BlankLines t)
    (pads : ∀ c ∈ t, isPad c) :
    t = [] := by
  cases lines with
  | nil => rfl
  | line _ ends _ =>
      refine absurd ?_ (lineFeed_not_mem_of_isPad pads)
      exact List.mem_append_left _ (List.mem_append_right _ ends.feed_mem)

theorem cuts_pads
    {t : Text}
    (pads : ∀ c ∈ t, isPad c) :
    Edges.Cuts ⟨[], [], t⟩ t := by
  refine ⟨rfl, ⟨List.nil_prefix, .nil, fun b starts lines => ?_⟩, ?_⟩
  · rw [lines.eq_nil_of_pads fun c member => pads c (starts.mem member)]
  · exact ⟨List.suffix_rfl, .of_isPad pads, fun b ends _ => ends.length_le⟩

theorem Edges.Cuts.pads_iff
    {e : Edges}
    {t : Text}
    (cuts : e.Cuts t) :
    (∀ c ∈ t, isPad c) ↔ e.head = [] ∧ e.body = [] := by
  constructor
  · intro pads
    rw [cuts.unique (cuts_pads pads)]
    exact ⟨rfl, rfl⟩
  · rintro ⟨noHead, noBody⟩
    rw [cuts.whole, noHead, noBody]
    exact cuts.pads noBody

/-! ## Any number of times -/

/-- A text trimmed a number of times. -/
def settleTimes (head tail : EdgeMode) : Nat → Text → Except Untrimmable Text
  | 0, t => .ok t
  | n + 1, t => (settleTimes head tail n t).bind fun u => trySettleEdges u head tail

theorem settleTimes_of_settled
    {head tail : EdgeMode}
    {t once : Text}
    (first : trySettleEdges t head tail = .ok once)
    (again : trySettleEdges once head tail = .ok once)
    (n : Nat) :
    settleTimes head tail (n + 1) t = .ok once := by
  induction n with
  | zero => exact first
  | succ n ih =>
      rw [settleTimes, ih]
      exact again

/-- Trimming a text again changes it in two cases only: a line end is put right after a carriage
return, or the text holds spaces and tabs only, its beginning is preserved and a line end is put at
its end. -/
theorem settled_again_iff (t : Text) (head tail : EdgeMode) :
    ∃ (e : Edges) (once : Text), e.Cuts t ∧ trySettleEdges t head tail = .ok once ∧
      (trySettleEdges once head tail = .ok once ↔
        ¬ (e.body.getLast? = some '\r' ∧ tail.lineEnd (e.tail.contains '\n') ≠ []) ∧
          ¬ ((∀ c ∈ t, isPad c) ∧ head = .preserve ∧ tail = .force)) ∧
      (trySettleEdges once head tail = .ok once →
        ∀ n, settleTimes head tail (n + 1) t = .ok once) := by
  have cuts := cuts_edges t
  have first := trySettleEdges_of_cuts cuts head tail
  refine ⟨edges t, _, cuts, first, ?_, settleTimes_of_settled first⟩
  rw [cuts.pads_iff]
  by_cases none : (edges t).body = []
  · rw [settled_again_bodiless cuts none]
    simp [none]
  · by_cases joins : (edges t).JoinsCarriage tail
    · exact iff_of_false (not_settled_again joins head) fun apart => apart.1 joins
    · refine iff_of_true (settled_again cuts none joins head) ⟨joins, fun blank => ?_⟩
      exact none blank.1.2

/-- A carriage return goes with the line end that was put after it, and the line end put after no
text at all counts as one before it. -/
theorem settled_again_differs :
    (trySettleEdges "a\r".toList .preserve .force = .ok "a\r\n".toList ∧
      trySettleEdges "a\r\n".toList .preserve .force ≠ .ok "a\r\n".toList) ∧
    (trySettleEdges [] .preserve .force = .ok "\n".toList ∧
      trySettleEdges "\n".toList .preserve .force ≠ .ok "\n".toList) := by
  simp only [trySettleEdges_eq]
  decide +kernel

end Stencil.Block
