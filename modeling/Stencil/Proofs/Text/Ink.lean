import Stencil.Proofs.Text.Cutting
import Stencil.Proofs.Text.Trimming

/-!
Ink.  The ink of a text is what is not blank in it.  Trimming takes none away, and of the pieces of a
text one has all the ink only when no line end stands inside the trimmed text.
-/
namespace Stencil.Text

variable {c : Char} {a t line : Text}

/-- How many characters of a text are not blank. -/
def ink (t : Text) : Nat :=
  t.countP (!isBlank ·)

theorem ink_append (a b : Text) : ink (a ++ b) = ink a + ink b :=
  List.countP_append

theorem ink_cons (inked : isBlank c = false) (t : Text) : ink (c :: t) = ink t + 1 :=
  List.countP_cons_of_pos (by simp [inked])

theorem ink_of_blank (blank : ∀ c ∈ a, isBlank c) : ink a = 0 :=
  List.countP_eq_zero.2 fun c member => by simp [blank c member]

theorem ink_pos (member : c ∈ t) (inked : isBlank c = false) : 0 < ink t :=
  List.countP_pos_iff.2 ⟨c, member, by simp [inked]⟩

theorem ink_trim (t : Text) : ink (trim t) = ink t := by
  obtain ⟨a, b, parts, left, right⟩ := exists_trim t
  conv => rhs; rw [parts]
  rw [ink_append, ink_append, ink_of_blank left, ink_of_blank right]
  omega

theorem ink_le_of_mem_pieces
    {piece : Text}
    (member : piece ∈ pieces t) :
    ink piece ≤ ink t := by
  induction t using lineEndInduction with
  | last a inLine =>
      rw [pieces_of_apart inLine, List.mem_singleton] at member
      rw [member]
  | line a c rest inLine ends ih =>
      have blank : ∀ d ∈ [c], isBlank d := List.forall_mem_singleton.2 (isBlank_of_isLineEnd ends)
      rw [pieces_append ends, pieces_of_apart inLine, List.singleton_append,
        List.mem_cons] at member
      rw [List.append_cons, ink_append, ink_append, ink_of_blank blank]
      rcases member with rfl | member
      · omega
      · have bound := ih member
        omega

theorem ink_pos_of_trimmed
    {u v : Text}
    (trimmed : Trimmed (u ++ c :: v))
    (blank : isBlank c) :
    0 < ink u ∧ 0 < ink v := by
  constructor
  · cases u with
    | nil => exact absurd blank (Bool.eq_false_iff.1 (trimmed.first c rfl))
    | cons d u => exact ink_pos List.mem_cons_self (trimmed.first d rfl)
  · rcases List.eq_nil_or_concat v with rfl | ⟨v, d, rfl⟩
    · exact absurd blank (Bool.eq_false_iff.1 (trimmed.last c List.getLast?_concat))
    · refine ink_pos (c := d) (by simp) (trimmed.last d ?_)
      rw [List.concat_eq_append, ← List.cons_append, ← List.append_assoc]
      exact List.getLast?_concat

/-- A line end inside the trimmed line has ink on both sides, so no piece has all the ink. -/
theorem inLine_of_ink_eq
    {piece : Text}
    (member : piece ∈ pieces line)
    (same : ink piece = ink line) :
    ∀ c ∈ trim line, isLineEnd c = false := by
  intro c inside
  refine Bool.eq_false_iff.2 fun ends => ?_
  have blank : isBlank c := isBlank_of_isLineEnd ends
  obtain ⟨u, v, middle⟩ := List.append_of_mem inside
  obtain ⟨a, b, parts, left, right⟩ := exists_trim line
  obtain ⟨inkLeft, inkRight⟩ := ink_pos_of_trimmed (middle ▸ trimmed_trim line) blank
  have whole : line = (a ++ u) ++ c :: (v ++ b) := by
    rw [middle] at parts
    simpa using parts
  have total : ink line = ink (a ++ u) + ink (v ++ b) := by
    rw [whole, List.append_cons, ink_append, ink_append _ [c],
      ink_of_blank (List.forall_mem_singleton.2 blank), Nat.add_zero]
  rw [whole, pieces_append ends, List.mem_append] at member
  rw [ink_append, ink_append v] at total
  rcases member with member | member
  · have bound := ink_le_of_mem_pieces member
    rw [ink_append] at bound
    omega
  · have bound := ink_le_of_mem_pieces member
    rw [ink_append] at bound
    omega

end Stencil.Text
