import Stencil.Proofs.Block.Lines
import Stencil.Text.LineEnd

/-!
Pieces of a text.  Between separators a text falls into the pieces of the standard library, no piece
holds a separator, and a text in front of a separator is a piece of its own.
-/
namespace Stencil.Text

variable {c separator : Char} {a t : Text} {parts : List Text}

/-! ## Pieces between separators -/

theorem consHead_eq_modifyHead
    (c : Char)
    (some_piece : parts ≠ []) :
    consHead c parts = parts.modifyHead (c :: ·) := by
  cases parts with
  | nil => exact absurd rfl some_piece
  | cons piece parts => rfl

theorem split_eq_splitOn (separator : Char) (t : Text) :
    split separator t = t.splitOn separator := by
  induction t with
  | nil => rfl
  | cons c cs ih =>
      rw [split, List.splitOn_cons_eq_if_modifyHead, ih,
        consHead_eq_modifyHead c (List.splitOn_ne_nil separator cs)]
      by_cases same : c = separator <;> simp [same]

theorem split_of_not_mem (apart : separator ∉ a) : split separator a = [a] := by
  rw [split_eq_splitOn, List.splitOn_eq_singleton apart]

theorem split_append
    (apart : separator ∉ a)
    (rest : Text) :
    split separator (a ++ separator :: rest) = a :: split separator rest := by
  rw [split_eq_splitOn, split_eq_splitOn, List.splitOn_append_cons_self_of_not_mem apart]

/-- Lines joined by a separator, and a text behind one more separator. -/
theorem split_intercalate_append
    (clean : ∀ line ∈ parts, separator ∉ line)
    (some_line : parts ≠ [])
    (rest : Text) :
    split separator ([separator].intercalate parts ++ separator :: rest) =
      parts ++ split separator rest := by
  induction parts with
  | nil => exact absurd rfl some_line
  | cons line parts ih =>
      rw [List.forall_mem_cons] at clean
      cases parts with
      | nil => rw [List.intercalate_singleton, split_append clean.1, List.singleton_append]
      | cons next parts =>
          have later := ih clean.2 (List.cons_ne_nil next parts)
          rw [List.intercalate_cons_cons, List.append_assoc, List.append_assoc,
            List.singleton_append, split_append clean.1, later]
          rfl

theorem forall_mem_consHead
    {good : Char → Prop}
    (first : good c)
    (others : ∀ piece ∈ parts, ∀ d ∈ piece, good d) :
    ∀ piece ∈ consHead c parts, ∀ d ∈ piece, good d := by
  cases parts with
  | nil => simpa [consHead] using first
  | cons piece parts =>
      rw [List.forall_mem_cons] at others
      rw [consHead, List.forall_mem_cons, List.forall_mem_cons]
      exact ⟨⟨first, others.1⟩, others.2⟩

theorem ne_of_mem_split (separator : Char) (t : Text) :
    ∀ piece ∈ split separator t, ∀ d ∈ piece, d ≠ separator := by
  induction t with
  | nil => simp [split]
  | cons c cs ih =>
      rw [split]
      split
      · exact List.forall_mem_cons.2 ⟨by simp, ih⟩
      · next other => exact forall_mem_consHead other ih

theorem not_mem_of_mem_split
    {piece : Text}
    (member : piece ∈ split separator t) :
    separator ∉ piece :=
  fun inside => ne_of_mem_split separator t piece member separator inside rfl

/-! ## The first separator -/

theorem cut?_of_not_mem (apart : separator ∉ a) : cut? separator a = none := by
  induction a with
  | nil => rfl
  | cons c a ih =>
      rw [List.mem_cons, not_or] at apart
      rw [cut?, if_neg (Ne.symm apart.1), ih apart.2]
      rfl

theorem cut?_append
    (apart : separator ∉ a)
    (rest : Text) :
    cut? separator (a ++ separator :: rest) = some (a, rest) := by
  induction a with
  | nil => exact if_pos rfl
  | cons c a ih =>
      rw [List.mem_cons, not_or] at apart
      rw [List.cons_append, cut?, if_neg (Ne.symm apart.1), ih apart.2]
      rfl

theorem cut?_eq_ite (separator : Char) (t : Text) :
    cut? separator t =
      if separator ∈ t then
        some (t.takeWhile (· != separator), (t.dropWhile (· != separator)).tail)
      else none := by
  induction t with
  | nil => rfl
  | cons c t ih =>
      rw [cut?, ih]
      by_cases same : c = separator
      · simp [same]
      · by_cases later : separator ∈ t <;> simp [same, Ne.symm same, later]

/-! ## Lines -/

theorem isBlank_of_isLineEnd (ends : isLineEnd c) : isBlank c := by
  simp only [isLineEnd, Bool.or_eq_true, Bool.and_eq_true, decide_eq_true_eq, beq_iff_eq] at ends
  simp only [isBlank, Ranges.covers, blankRanges, List.any_cons, List.any_nil, Bool.or_eq_true,
    Bool.and_eq_true, decide_eq_true_eq]
  omega

theorem splitLines_cons
    (inLine : isLineEnd c = false)
    (cs : Text) :
    splitLines (c :: cs) = consHead c (splitLines cs) := by
  have other : c ≠ '\r' := by
    rintro rfl
    exact absurd inLine (by decide)
  rw [splitLines, inLine]
  · rfl
  · intro cs' same
    exact absurd same other

theorem splitLines_cons_lineEnd
    (ends : isLineEnd c)
    (cs : Text) :
    splitLines (c :: cs) = [] :: splitLines cs ∨
      ∃ rest, cs = '\n' :: rest ∧ splitLines (c :: cs) = [] :: splitLines rest := by
  by_cases both : c = '\r' ∧ ∃ rest, cs = '\n' :: rest
  · obtain ⟨rfl, rest, rfl⟩ := both
    exact .inr ⟨rest, rfl, rfl⟩
  · refine .inl ?_
    rw [splitLines, if_pos ends]
    intro rest first second
    exact both ⟨first, rest, second⟩

theorem splitLines_append_of_nil
    (inLine : ∀ d ∈ a, isLineEnd d = false)
    (next : splitLines t = [] :: parts) :
    splitLines (a ++ t) = a :: parts := by
  induction a with
  | nil => exact next
  | cons d a ih =>
      rw [List.forall_mem_cons] at inLine
      rw [List.cons_append, splitLines_cons inLine.1, ih inLine.2, consHead]

theorem splitLines_of_apart
    (inLine : ∀ d ∈ a, isLineEnd d = false)
    (some_left : a ≠ []) :
    splitLines a = [a] := by
  induction a with
  | nil => exact absurd rfl some_left
  | cons d a ih =>
      rw [List.forall_mem_cons] at inLine
      rw [splitLines_cons inLine.1]
      cases a with
      | nil => rfl
      | cons e a => rw [ih inLine.2 (List.cons_ne_nil e a), consHead]

theorem isLineEnd_of_mem_splitLines (t : Text) :
    ∀ piece ∈ splitLines t, ∀ d ∈ piece, isLineEnd d = false := by
  fun_induction splitLines t with
  | case1 => simp
  | case2 cs ih => exact List.forall_mem_cons.2 ⟨by simp, ih⟩
  | case3 c cs _ ends ih => exact List.forall_mem_cons.2 ⟨by simp, ih⟩
  | case4 c cs _ inLine ih => exact forall_mem_consHead (Bool.eq_false_iff.2 inLine) ih

theorem not_mem_of_mem_splitLines
    {piece : Text}
    (member : piece ∈ splitLines t) :
    '\n' ∉ piece :=
  fun inside => absurd (isLineEnd_of_mem_splitLines t piece member '\n' inside) (by decide)

theorem pieces_of_apart (inLine : ∀ c ∈ a, isLineEnd c = false) : pieces a = [a] :=
  List.splitOnP_eq_singleton inLine

theorem pieces_append (ends : isLineEnd c) (a t : Text) :
    pieces (a ++ c :: t) = pieces a ++ pieces t :=
  List.splitOnP_append_cons a t ends

theorem splitLines_feed (t : Text) : splitLines ('\n' :: t) = [] :: splitLines t := by
  rw [splitLines]
  · rfl
  · intro rest first
    exact absurd first (by decide)

/-- A text without a line end, or such a text and a line end before a text. -/
@[elab_as_elim]
theorem lineEndInduction
    {motive : Text → Prop}
    (last : ∀ a, (∀ d ∈ a, isLineEnd d = false) → motive a)
    (line : ∀ a c rest, (∀ d ∈ a, isLineEnd d = false) → isLineEnd c → motive rest →
      motive (a ++ c :: rest))
    (t : Text) :
    motive t := by
  have passed : ∀ d ∈ t.takeWhile (!isLineEnd ·), isLineEnd d = false := by
    intro d member
    simpa using List.all_eq_true.1 List.all_takeWhile d member
  have parts : t.takeWhile (!isLineEnd ·) ++ t.dropWhile (!isLineEnd ·) = t :=
    List.takeWhile_append_dropWhile
  cases left : t.dropWhile (!isLineEnd ·) with
  | nil =>
      rw [left, List.append_nil] at parts
      exact parts ▸ last _ passed
  | cons c rest =>
      rw [left] at parts
      have ends : isLineEnd c := by
        have first := List.head?_dropWhile_not (!isLineEnd ·) t
        rw [left] at first
        simpa using first
      have shorter : rest.length < t.length := by
        rw [← parts]
        simp only [List.length_append, List.length_cons]
        omega
      exact parts ▸ line _ c rest passed ends (lineEndInduction last line rest)
  termination_by t.length

/-! ## Line ends made alike -/

theorem not_mem_unifyLineEnds (t : Text) : '\r' ∉ unifyLineEnds t := by
  fun_induction unifyLineEnds t with
  | case1 => exact List.not_mem_nil
  | case2 cs ih => exact List.not_mem_cons_of_ne_of_not_mem (by decide) ih
  | case3 c cs _ ih =>
      apply List.not_mem_cons_of_ne_of_not_mem _ ih
      by_cases ends : c = '\r'
      · rw [if_pos ends]
        decide
      · rw [if_neg ends]
        exact Ne.symm ends

theorem unifyLineEnds_of_not_mem (clean : '\r' ∉ t) : unifyLineEnds t = t := by
  fun_induction unifyLineEnds t with
  | case1 => rfl
  | case2 cs _ => exact absurd List.mem_cons_self clean
  | case3 c cs _ ih =>
      rw [List.mem_cons, not_or] at clean
      rw [if_neg (Ne.symm clean.1), ih clean.2]

/-- Line ends are unified already when no carriage return is among them. -/
theorem unifyLineEnds_eq_self_iff : unifyLineEnds t = t ↔ '\r' ∉ t := by
  constructor
  · intro same
    rw [← same]
    exact not_mem_unifyLineEnds t
  · exact unifyLineEnds_of_not_mem

end Stencil.Text
