import Stencil.Proofs.Text.Trimming
import Stencil.Release.Printer
import Stencil.Release.Reader

/-!
Header lines.  A version is read up to the first character that can belong to none, a tag up to the
first blank one, and a line has a header when two number signs, blanks and a digit stand at its
start.
-/
namespace Stencil.Release

open Text

/-! ## Digits -/

/-- No script has a digit among the blank characters. -/
theorem isBlank_of_isDigit {c : Char} (digit : isDigit c) : isBlank c = false := by
  have apart : ∀ first ∈ 48 :: digitZeros, ∀ run ∈ blankRanges,
      first + 10 ≤ run.1 ∨ run.2 < first := by
    decide
  rw [Bool.eq_false_iff]
  intro blank
  obtain ⟨first, found⟩ := Option.isSome_iff_exists.1 (Option.isSome_map.symm.trans digit)
  obtain ⟨run, member, inRun⟩ := List.any_eq_true.1 blank
  have inScript := List.find?_some found
  simp only [Bool.and_eq_true, decide_eq_true_eq] at inRun inScript
  have := apart first (List.mem_of_find?_eq_some found) run member
  omega

theorem IsTag.not_all_blank
    {tag : Text}
    (isTag : IsTag tag) :
    tag.all isBlank = false := by
  obtain ⟨c, cs, rfl⟩ := List.exists_cons_of_ne_nil isTag.nonempty
  rw [List.all_cons, isTag.ink c List.mem_cons_self, Bool.false_and]

namespace Header

/-! ## Versions -/

/-- Nothing at the start of a text belongs to a version before it. -/
def EndsVersion (t : Text) : Prop :=
  ∀ c ∈ t.head?, isDigit c = false ∧ c ≠ '.'

variable {number rest : Text} {others : List Text}

theorem moreNumbers_of_ends
    (ends : EndsVersion rest)
    (count : Nat) :
    moreNumbers count rest = [] := by
  unfold moreNumbers
  split
  · next count cs => exact absurd rfl (ends '.' rfl).2
  · rfl

theorem moreNumbers_cons
    (isNumber : IsNumber number)
    (ends : ∀ c ∈ rest.head?, isDigit c = false)
    (count : Nat) :
    moreNumbers (count + 1) ('.' :: (number ++ rest)) =
      '.' :: number ++ moreNumbers count rest := by
  have taken := takeWhile_append_of_ends isNumber.digits ends
  simp only [moreNumbers, taken, List.isEmpty_iff, if_neg isNumber.nonempty, List.drop_left]

/-- A number ends before a full stop, and the last one where the version ends. -/
theorem no_digit_next
    (ends : EndsVersion rest)
    (others : List Text) :
    ∀ c ∈ (others.flatMap ('.' :: ·) ++ rest).head?, isDigit c = false := by
  cases others with
  | nil => exact fun c first => (ends c first).1
  | cons other others =>
      intro c first
      cases first
      decide

/-- Numbers behind full stops, with what follows them. -/
theorem moreNumbers_append
    {count : Nat}
    (enough : others.length ≤ count)
    (numbers : ∀ number ∈ others, IsNumber number)
    (ends : EndsVersion rest) :
    moreNumbers count (others.flatMap ('.' :: ·) ++ rest) = others.flatMap ('.' :: ·) := by
  induction others generalizing count with
  | nil => exact moreNumbers_of_ends ends count
  | cons number others ih =>
      obtain ⟨count, rfl⟩ : ∃ fewer, count = fewer + 1 :=
        Nat.exists_eq_add_one_of_ne_zero (Nat.ne_zero_of_lt enough)
      rw [List.forall_mem_cons] at numbers
      rw [List.flatMap_cons, List.cons_append, List.cons_append, List.append_assoc,
        moreNumbers_cons numbers.1 (no_digit_next ends others),
        ih (Nat.le_of_succ_le_succ enough) numbers.2]
      rfl

theorem intercalate_eq_flatMap (first : Text) (others : List Text) :
    ['.'].intercalate (first :: others) = first ++ others.flatMap ('.' :: ·) := by
  induction others generalizing first with
  | nil => simp
  | cons other others ih => simp [List.intercalate_cons_cons, ih]

theorem versionOf?_append
    {version : Text}
    (isVersion : IsVersion version)
    (ends : EndsVersion rest) :
    versionOf? (version ++ rest) = some version := by
  obtain ⟨first, others, rfl, few, numbers⟩ := isVersion
  rw [List.forall_mem_cons] at numbers
  have taken := takeWhile_append_of_ends numbers.1.digits (no_digit_next ends others)
  rw [intercalate_eq_flatMap, List.append_assoc, versionOf?, taken, List.drop_left,
    moreNumbers_append few numbers.2 ends]
  simp only [List.isEmpty_iff, if_neg numbers.1.nonempty]

/-! ## Tags and header lines -/

theorem tagOf?_tagMark
    {tag : Option Text}
    (isTag : ∀ t ∈ tag, IsTag t) :
    tagOf? (tagMark tag) = tag := by
  cases tag with
  | none => rfl
  | some tag =>
      have whole := isTag tag rfl
      have taken : tag.takeWhile (fun c => !isBlank c) = tag := by
        rw [List.takeWhile_eq_self_iff]
        intro c member
        rw [whole.ink c member]
        rfl
      have marked : tagMark (some tag) = '-' :: tag := rfl
      simp only [marked, tagOf?, taken, List.isEmpty_iff, if_neg whole.nonempty]

theorem endsVersion_tagMark (tag : Option Text) : EndsVersion (tagMark tag) := by
  intro c first
  cases tag with
  | none => cases first
  | some tag =>
      cases first
      decide

theorem first_of_isVersion
    {version : Text}
    (isVersion : IsVersion version) :
    ∃ digit rest, version = digit :: rest ∧ isDigit digit := by
  obtain ⟨first, others, rfl, _, numbers⟩ := isVersion
  have isNumber := numbers first List.mem_cons_self
  obtain ⟨digit, rest, rfl⟩ := List.exists_cons_of_ne_nil isNumber.nonempty
  rw [intercalate_eq_flatMap, List.cons_append]
  exact ⟨digit, _, rfl, isNumber.digits digit List.mem_cons_self⟩

theorem read?_headerLine
    {version : Text}
    {tag : Option Text}
    (isVersion : IsVersion version)
    (isTag : ∀ t ∈ tag, IsTag t) :
    read? (headerLine version tag) = some ⟨version, tag⟩ := by
  obtain ⟨digit, more, parts, isDigit⟩ := first_of_isVersion isVersion
  have line : headerLine version tag = '#' :: '#' :: ' ' :: (version ++ tagMark tag) := by
    simp [headerLine]
  have start : trimStart (version ++ tagMark tag) = version ++ tagMark tag := by
    rw [parts]
    exact trimStart_cons_of_ink (isBlank_of_isDigit isDigit) _
  have found := versionOf?_append isVersion (endsVersion_tagMark tag)
  have blank : isBlank ' ' := by decide
  simp only [line, read?, if_pos blank, start, found, Option.map_some, List.drop_left,
    tagOf?_tagMark isTag]

/-- No blank character is in a version or its tag. -/
theorem ink_of_mem
    {version : Text}
    {tag : Option Text}
    (isVersion : IsVersion version)
    (isTag : ∀ t ∈ tag, IsTag t)
    {c : Char}
    (member : c ∈ version ++ tagMark tag) :
    isBlank c = false := by
  rcases List.mem_append.1 member with inVersion | inMark
  · obtain ⟨first, others, rfl, _, numbers⟩ := isVersion
    rw [List.forall_mem_cons] at numbers
    rw [intercalate_eq_flatMap, List.mem_append, List.mem_flatMap] at inVersion
    rcases inVersion with inFirst | ⟨number, other, inNumber⟩
    · exact isBlank_of_isDigit (numbers.1.digits c inFirst)
    · rcases List.mem_cons.1 inNumber with rfl | digit
      · decide
      · exact isBlank_of_isDigit ((numbers.2 number other).digits c digit)
  · cases tag with
    | none => cases inMark
    | some tag =>
        rcases List.mem_cons.1 inMark with rfl | inTag
        · decide
        · exact (isTag tag rfl).ink c inTag

theorem isSome_versionOf?
    {t : Text} :
    (versionOf? t).isSome ↔ ∃ digit rest, t = digit :: rest ∧ isDigit digit := by
  cases t with
  | nil => simp [versionOf?]
  | cons c rest => by_cases digit : isDigit c <;> simp [versionOf?, digit]

/-- A header is read from the lines that begin like one. -/
theorem isSome_read?
    {line : Text} :
    (read? line).isSome ↔ IsHeader line := by
  constructor
  · intro found
    unfold read? at found
    split at found
    · next c cs =>
        split at found
        · next blank =>
            rw [Option.isSome_map, isSome_versionOf?] at found
            obtain ⟨digit, rest, start, isDigit⟩ := found
            obtain ⟨blanks, parts, allBlank⟩ := exists_trimStart cs
            rw [start] at parts
            refine ⟨c :: blanks, digit, rest, ?_, List.cons_ne_nil c blanks, ?_, isDigit⟩
            · rw [parts]
              rfl
            · exact List.forall_mem_cons.2 ⟨blank, allBlank⟩
        · cases found
    · cases found
  · rintro ⟨blanks, digit, rest, rfl, nonempty, allBlank, isDigit⟩
    obtain ⟨c, blanks, rfl⟩ := List.exists_cons_of_ne_nil nonempty
    rw [List.forall_mem_cons] at allBlank
    have line : "##".toList ++ c :: blanks ++ digit :: rest =
        '#' :: '#' :: c :: (blanks ++ digit :: rest) := by
      simp
    rw [line, read?, if_pos allBlank.1, Option.isSome_map, isSome_versionOf?,
      trimStart_append_left allBlank.2, trimStart_cons_of_ink (isBlank_of_isDigit isDigit)]
    exact ⟨digit, rest, rfl, isDigit⟩

end Header

theorem isHeader_trim
    {line : Text}
    (header : IsHeader line) :
    IsHeader (trim line) := by
  obtain ⟨blanks, digit, rest, rfl, nonempty, allBlank, isDigit⟩ := header
  refine ⟨blanks, digit, trimEnd rest, ?_, nonempty, allBlank, isDigit⟩
  have start : trimStart ("##".toList ++ blanks ++ digit :: rest) =
      "##".toList ++ blanks ++ digit :: rest :=
    trimStart_cons_of_ink (by decide) _
  rw [trim, start, trimEnd_append_cons (isBlank_of_isDigit isDigit)]

end Stencil.Release
