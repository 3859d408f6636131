import Stencil.Proofs.Block.Edges
import Stencil.Proofs.Block.Lines
import Stencil.Proofs.Table
import Stencil.Proofs.Text.Pattern

/-!
Edges by their pattern.  Blank lines are never given back, the body stops at the first place from
which only spaces, tabs and line ends follow, and so the pattern cuts a text where the direct readers
do.  It matches every text.
-/
namespace Stencil.Block

open Text Pattern

variable {β : Type} {goOn : Text → Groups → Option β} {groups : Groups}

/-! ## Line ends and padding -/

theorem attempt_lineEnd (t : Text) :
    Grammar.lineEnd.attempt goOn t groups = (dropLineEnd? t).bind (goOn · groups) := by
  rcases t with _ | ⟨c, cs⟩
  · rfl
  by_cases feed : c = '\n'
  · subst feed
    simp [Grammar.lineEnd, attempt, dropLineEnd?]
  by_cases carriage : c = '\r'
  · subst carriage
    rcases cs with _ | ⟨d, ds⟩
    · simp [Grammar.lineEnd, attempt, dropLineEnd?]
    · by_cases follows : d = '\n' <;> simp [Grammar.lineEnd, attempt, dropLineEnd?, follows]
  · simp [Grammar.lineEnd, attempt, dropLineEnd?, feed, carriage]

/-- Padding before what cannot begin with padding is passed whole. -/
theorem attempt_padding
    (apart : ∀ c rest, isPad c → goOn (c :: rest) groups = none)
    (t : Text) :
    Grammar.padding.attempt goOn t groups = goOn (t.dropWhile isPad) groups :=
  passMost_eq_of_apart apart t

theorem attempt_blankLine (t : Text) :
    (both Grammar.padding Grammar.lineEnd).attempt goOn t groups =
      (dropBlankLine? t).bind (goOn · groups) := by
  rw [attempt, attempt_padding, attempt_lineEnd, dropBlankLine?]
  intro c rest pad
  rw [attempt_lineEnd, dropLineEnd?_of_isPad pad, Option.bind_none]

/-! ## Leading blank lines -/

theorem passMany_blankLine
    (total : Total goOn)
    (t : Text) :
    passMany (both Grammar.padding Grammar.lineEnd).attempt goOn t groups =
      goOn (dropBlankLines t) groups := by
  fun_induction dropBlankLines t with
  | case1 t rest dropped ih =>
      obtain ⟨result, reached⟩ := Option.isSome_iff_exists.1 (total (dropBlankLines rest) groups)
      rw [passMany, attempt_blankLine, dropped, Option.bind_some,
        if_pos (length_lt_of_dropBlankLine? dropped), ih, reached, Option.some_or]
  | case2 t kept => rw [passMany, attempt_blankLine, kept, Option.bind_none, Option.none_or]

theorem head_edges_of_none
    {t : Text}
    (kept : dropBlankLine? t = none) :
    (edges t).head = [] := by
  simp [edges, dropBlankLines_of_none kept]

theorem head_edges_of_some
    {t rest : Text}
    (dropped : dropBlankLine? t = some rest) :
    (edges t).head ≠ [] := by
  intro none
  obtain ⟨line, parts, blank, nonempty⟩ := exists_line_of_dropBlankLine? dropped
  have short := (cuts_edges t).head.longest line ⟨rest, parts.symm⟩ blank
  rw [none, List.length_nil, Nat.le_zero, List.length_eq_zero_iff] at short
  exact nonempty short

/-- The groups after the head of a text. -/
def Edges.afterHead (e : Edges) : Groups :=
  if e.head = [] then [] else [(Grammar.headGroup, e.head)]

theorem attempt_leading
    (total : Total goOn)
    (t : Text) :
    Grammar.leading.attempt goOn t [] = goOn (dropBlankLines t) (edges t).afterHead := by
  have several : ∀ {goOn : Text → Groups → Option β}, Total goOn →
      (Grammar.oneOrMore (both Grammar.padding Grammar.lineEnd)).attempt goOn t [] =
        (dropBlankLine? t).bind fun rest => goOn (dropBlankLines rest) [] := by
    intro goOn total
    rw [Grammar.oneOrMore, attempt, attempt_blankLine]
    exact Option.bind_congr fun rest _ => passMany_blankLine total rest
  rw [Grammar.leading, attempt, attempt, several fun rest groups => total rest _, Edges.afterHead]
  cases dropped : dropBlankLine? t with
  | none =>
      rw [Option.bind_none, Option.none_or, dropBlankLines_of_none dropped,
        if_pos (head_edges_of_none dropped)]
  | some rest =>
      rw [Option.bind_some, Option.or_of_isSome (total _ _), if_neg (head_edges_of_some dropped),
        ← dropBlankLines_of_some dropped]
      rfl

/-! ## Trailing blank characters -/

/-- There is a result at the end of the text only. -/
def AtEnd (goOn : Text → Groups → Option β) : Prop :=
  ∀ c rest groups, goOn (c :: rest) groups = none

theorem attempt_paddedEnd
    (apart : ∀ c rest, isPad c → goOn (c :: rest) groups = none)
    (t : Text) :
    (both Grammar.lineEnd Grammar.padding).attempt goOn t groups =
      (dropLineEnd? t).bind fun rest => goOn (rest.dropWhile isPad) groups := by
  rw [attempt, attempt_lineEnd]
  exact Option.bind_congr fun rest _ => attempt_padding apart rest

theorem passMany_paddedEnd_of_isPad
    (atEnd : AtEnd goOn)
    {c : Char}
    (pad : isPad c)
    (rest : Text) :
    passMany (both Grammar.lineEnd Grammar.padding).attempt goOn (c :: rest) groups = none := by
  rw [passMany, attempt, attempt_lineEnd, dropLineEnd?_of_isPad pad, atEnd]
  rfl

/-- Line ends, each with the padding after it, lead to the end of a blank tail and of no other
text. -/
theorem passMany_paddedEnd
    (atEnd : AtEnd goOn)
    {t : Text}
    (unpadded : ∀ c ∈ t.head?, isPad c = false)
    (groups : Groups) :
    (BlankTail t →
      passMany (both Grammar.lineEnd Grammar.padding).attempt goOn t groups = goOn [] groups) ∧
    (¬ BlankTail t →
      passMany (both Grammar.lineEnd Grammar.padding).attempt goOn t groups = none) := by
  induction size : t.length using Nat.strongRecOn generalizing t with
  | ind bound ih =>
      subst size
      rw [passMany, attempt_paddedEnd]
      · cases dropped : dropLineEnd? t with
        | none =>
            cases t with
            | nil => exact ⟨fun _ => rfl, fun ink => absurd .nil ink⟩
            | cons c t =>
                have ink := not_blankTail (List.cons_ne_nil c t) unpadded dropped
                exact ⟨fun blank => absurd blank ink, fun _ => atEnd c t groups⟩
        | some rest =>
            have shorter : (rest.dropWhile isPad).length < t.length :=
              Nat.lt_of_le_of_lt (List.dropWhile_suffix isPad).length_le
                (length_lt_of_dropLineEnd? dropped)
            have some_left : ∀ groups, goOn t groups = none := by
              cases t with
              | nil => cases dropped
              | cons c t => exact atEnd c t
            rw [Option.bind_some, if_pos shorter, some_left, Option.or_none,
              blankTail_iff_of_dropLineEnd? dropped]
            exact ih _ shorter (head?_dropWhile_isPad rest) rfl
      · intro c rest pad
        rw [passMany_paddedEnd_of_isPad atEnd pad, ite_self]

/-- The groups after the tail of a text. -/
def addTail (tail : Text) (groups : Groups) : Groups :=
  if '\n' ∈ tail then groups.put Grammar.tailGroup (tail.dropWhile isPad) else groups

theorem addTail_of_pads
    {t : Text}
    (pads : t.dropWhile isPad = [])
    (groups : Groups) :
    addTail t groups = groups := by
  exact if_neg (lineFeed_not_mem_of_isPad (List.dropWhile_eq_nil_iff.1 pads))

theorem addTail_of_lineEnd
    {t rest : Text}
    (dropped : dropLineEnd? (t.dropWhile isPad) = some rest)
    (groups : Groups) :
    addTail t groups = groups.put Grammar.tailGroup (t.dropWhile isPad) := by
  obtain ⟨lineEnd, parts, ends⟩ := eq_append_of_dropLineEnd? dropped
  refine if_pos ((List.dropWhile_suffix isPad).mem ?_)
  rw [parts]
  exact List.mem_append_left rest ends.feed_mem

theorem atEnd_finish (capture : Text → Groups → Groups) :
    AtEnd fun rest groups => finish rest (capture rest groups) :=
  fun _ _ _ => rfl

theorem attempt_tail (t : Text) :
    (maybe (group Grammar.tailGroup (Grammar.oneOrMore
      (both Grammar.lineEnd Grammar.padding)))).attempt finish t groups =
      ((dropLineEnd? t).bind fun rest =>
        passMany (both Grammar.lineEnd Grammar.padding).attempt
          (fun rest groups =>
            finish rest (groups.put Grammar.tailGroup (t.take (t.length - rest.length))))
          (rest.dropWhile isPad) groups).or (finish t groups) := by
  rw [attempt, attempt, Grammar.oneOrMore, attempt, attempt_paddedEnd]
  · rfl
  · exact fun c rest pad => passMany_paddedEnd_of_isPad (atEnd_finish _) pad rest

/-- Padding and line ends are passed up to the end of a blank tail, and nothing else is. -/
theorem attempt_trailing (t : Text) (groups : Groups) :
    (BlankTail t → Grammar.trailing.attempt finish t groups = some (addTail t groups)) ∧
    (¬ BlankTail t → Grammar.trailing.attempt finish t groups = none) := by
  rw [Grammar.trailing, attempt, attempt_padding, attempt_tail, blankTail_iff_dropWhile]
  · cases dropped : dropLineEnd? (t.dropWhile isPad) with
    | none =>
        cases left : t.dropWhile isPad with
        | nil =>
            rw [addTail_of_pads left]
            exact ⟨fun _ => rfl, fun ink => absurd .nil ink⟩
        | cons c rest =>
            have ink := not_blankTail (List.cons_ne_nil c rest)
              (left ▸ head?_dropWhile_isPad t) (left ▸ dropped)
            exact ⟨fun blank => absurd blank ink, fun _ => rfl⟩
    | some rest =>
        have some_left : finish (t.dropWhile isPad) groups = none := by
          cases left : t.dropWhile isPad with
          | nil =>
              rw [left] at dropped
              cases dropped
          | cons c cs => rfl
        obtain ⟨blank, ink⟩ := passMany_paddedEnd
          (atEnd_finish fun rest groups => groups.put Grammar.tailGroup
            ((t.dropWhile isPad).take ((t.dropWhile isPad).length - rest.length)))
          (head?_dropWhile_isPad rest) groups
        rw [Option.bind_some, some_left, Option.or_none, addTail_of_lineEnd dropped,
          blankTail_iff_of_dropLineEnd? dropped]
        refine ⟨fun tail => (blank tail).trans ?_, ink⟩
        rw [finish, if_pos rfl, List.length_nil, Nat.sub_zero, List.take_length]
  · intro c rest pad
    rw [attempt_tail, dropLineEnd?_of_isPad pad]
    rfl

/-! ## Whole texts -/

/-- The groups of a cut text. -/
def Edges.captured (e : Edges) : Groups :=
  addTail e.tail (e.afterHead.put Grammar.bodyGroup e.body)

/-- A body of any characters, and a tail. -/
def Grammar.bodyAndTail : Pattern :=
  both (group bodyGroup (fewest fun _ => true)) trailing

theorem attempt_bodyAndTail
    {body tail : Text}
    (blank : BlankTail tail)
    (firm : Firm body tail)
    (groups : Groups) :
    Grammar.bodyAndTail.attempt finish (body ++ tail) groups =
      some (addTail tail (groups.put Grammar.bodyGroup body)) := by
  have body_left : (body ++ tail).take ((body ++ tail).length - tail.length) = body := by simp
  have here := (attempt_trailing tail (groups.put Grammar.bodyGroup body)).1 blank
  rw [Grammar.bodyAndTail, attempt, attempt, attempt, passFewest_append, body_left, here]
  · simp
  · intro m some_left inside
    exact (attempt_trailing _ _).2 (not_blankTail_append firm some_left inside)
  · rw [body_left, here]
    rfl

theorem total_bodyAndTail : Total (Grammar.bodyAndTail.attempt finish) := by
  intro rest groups
  obtain ⟨body, tail, rfl, _, blank, firm⟩ := exists_firm rest
  rw [attempt_bodyAndTail blank firm]
  rfl

/-- The pattern matches every text and cuts it at its edges. -/
theorem edges_fullMatch? (t : Text) : Grammar.edges.fullMatch? t = some (edges t).captured := by
  obtain ⟨head, body, tail, _, cut, rest, _, blank, firm⟩ := exists_edges t
  have whole := attempt_bodyAndTail blank firm (edges t).afterHead
  rw [fullMatch?_eq, Grammar.edges, attempt, attempt_leading, rest]
  · rw [Edges.captured]
    rw [cut] at whole ⊢
    exact whole
  · exact total_bodyAndTail

theorem get?_addTail
    {name : Text}
    (other : name ≠ Grammar.tailGroup)
    (tail : Text)
    (groups : Groups) :
    (addTail tail groups).get? name = groups.get? name := by
  rw [addTail]
  split
  · rw [Table.get?_put, if_neg (Ne.symm other)]
  · rfl

theorem isSome_get?_addTail
    {groups : Groups}
    (missing : groups.get? Grammar.tailGroup = none)
    (tail : Text) :
    ((addTail tail groups).get? Grammar.tailGroup).isSome = tail.contains '\n' := by
  rw [addTail]
  split
  · next fed => simp [Table.get?_put, fed]
  · next clean => simp [missing, clean]

theorem get?_afterHead (e : Edges) (name : Text) :
    e.afterHead.get? name =
      if Grammar.headGroup = name ∧ e.head ≠ [] then some e.head else none := by
  rw [Edges.afterHead]
  by_cases none : e.head = []
  · simp [none, Table.get?]
  · simp [none, Table.get?]

theorem get?_captured (e : Edges) :
    (e.captured.get? Grammar.headGroup).isSome = !e.head.isEmpty ∧
      e.captured.get? Grammar.bodyGroup = some e.body ∧
      (e.captured.get? Grammar.tailGroup).isSome = e.tail.contains '\n' := by
  have headBody : Grammar.headGroup ≠ Grammar.bodyGroup := by decide
  have headTail : Grammar.headGroup ≠ Grammar.tailGroup := by decide
  have bodyTail : Grammar.bodyGroup ≠ Grammar.tailGroup := by decide
  refine ⟨?_, ?_, ?_⟩
  · rw [Edges.captured, get?_addTail headTail, Table.get?_put, if_neg headBody.symm, get?_afterHead]
    cases e.head <;> simp
  · rw [Edges.captured, get?_addTail bodyTail, Table.get?_put, if_pos rfl]
  · refine isSome_get?_addTail ?_ e.tail
    rw [Table.get?_put, if_neg bodyTail, get?_afterHead, if_neg fun found => headTail found.1]

/-- Every text can be trimmed, and the pattern trims it like the direct readers. -/
theorem trySettleEdges_eq (t : Text) (head tail : EdgeMode) :
    trySettleEdges t head tail = .ok (settleEdges t head tail) := by
  obtain ⟨headGroup, bodyGroup, tailGroup⟩ := get?_captured (edges t)
  simp only [trySettleEdges, edges_fullMatch?, settleEdges, headGroup, bodyGroup, tailGroup,
    Option.getD_some]

/-- What trimming leaves of a text that is cut at its edges. -/
def Edges.settled (e : Edges) (head tail : EdgeMode) : Text :=
  head.lineEnd (!e.head.isEmpty) ++ e.body ++ tail.lineEnd (e.tail.contains '\n')

theorem trySettleEdges_of_cuts
    {e : Edges}
    {t : Text}
    (cuts : e.Cuts t)
    (head tail : EdgeMode) :
    trySettleEdges t head tail = .ok (e.settled head tail) := by
  rw [trySettleEdges_eq, cuts.eq_edges]
  rfl

end Stencil.Block
