import Stencil.Block.Grammar

/-!
Where a text is cut at its edges.  The head is the longest beginning of blank lines, the tail is the
longest end of what is left that holds only spaces, tabs and line ends, and no other cut is of this
kind.
-/
namespace Stencil.Block

open Text

/-- A character that trimming may take off. -/
def isEdgeChar (c : Char) : Bool :=
  isPad c || c == '\n' || c == '\r'

theorem isEdgeChar_of_isPad
    {c : Char}
    (pad : isPad c) :
    isEdgeChar c := by
  simp [isEdgeChar, pad]

theorem IsLineEnd.isEdgeChar
    {lineEnd : Text}
    (ends : IsLineEnd lineEnd) :
    ∀ c ∈ lineEnd, isEdgeChar c := by
  rcases ends with rfl | rfl <;> exact List.all_eq_true.1 (by decide)

theorem IsLineEnd.feed_mem
    {lineEnd : Text}
    (ends : IsLineEnd lineEnd) :
    '\n' ∈ lineEnd := by
  rcases ends with rfl | rfl <;> simp

theorem IsLineEnd.exists_eq
    {lineEnd : Text}
    (ends : IsLineEnd lineEnd) :
    ∃ before, lineEnd = before ++ ['\n'] ∧ '\n' ∉ before := by
  rcases ends with rfl | rfl
  · exact ⟨[], rfl, by decide⟩
  · exact ⟨['\r'], rfl, by decide⟩

theorem dropLineEnd?_append
    {lineEnd : Text}
    (ends : IsLineEnd lineEnd)
    (rest : Text) :
    dropLineEnd? (lineEnd ++ rest) = some rest := by
  rcases ends with rfl | rfl <;> rfl

theorem eq_append_of_dropLineEnd?
    {t rest : Text}
    (dropped : dropLineEnd? t = some rest) :
    ∃ lineEnd, t = lineEnd ++ rest ∧ IsLineEnd lineEnd := by
  unfold dropLineEnd? at dropped
  split at dropped
  · next cs =>
      cases dropped
      exact ⟨['\n'], rfl, .inl rfl⟩
  · next cs =>
      cases dropped
      exact ⟨['\r', '\n'], rfl, .inr rfl⟩
  · cases dropped

theorem dropLineEnd?_of_isPad
    {c : Char}
    (pad : isPad c)
    (rest : Text) :
    dropLineEnd? (c :: rest) = none := by
  simp only [isPad, Bool.or_eq_true, beq_iff_eq] at pad
  rcases pad with rfl | rfl <;> rfl

theorem head?_dropWhile_isPad (t : Text) : ∀ c ∈ (t.dropWhile isPad).head?, isPad c = false := by
  intro c first
  have checked := List.head?_dropWhile_not isPad t
  rw [first] at checked
  simpa using checked

/-! ## Blank lines -/

theorem BlankLines.isEdgeChar
    {t : Text}
    (blank : BlankLines t) :
    ∀ c ∈ t, isEdgeChar c := by
  induction blank with
  | nil => simp
  | line pads ends _ ih =>
      refine List.forall_mem_append.2 ⟨List.forall_mem_append.2 ⟨?_, ends.isEdgeChar⟩, ih⟩
      exact fun c member => isEdgeChar_of_isPad (pads c member)

theorem BlankLines.single
    {pads lineEnd : Text}
    (blank : ∀ c ∈ pads, isPad c)
    (ends : IsLineEnd lineEnd) :
    BlankLines (pads ++ lineEnd) := by
  rw [← List.append_nil (pads ++ lineEnd)]
  exact .line blank ends .nil

theorem BlankLines.append
    {a b : Text}
    (first : BlankLines a)
    (second : BlankLines b) :
    BlankLines (a ++ b) := by
  induction first with
  | nil => exact second
  | line pads ends _ ih =>
      rw [List.append_assoc]
      exact .line pads ends ih

theorem dropWhile_isPad_append
    {pads lineEnd : Text}
    (blank : ∀ c ∈ pads, isPad c)
    (ends : IsLineEnd lineEnd)
    (rest : Text) :
    (pads ++ lineEnd ++ rest).dropWhile isPad = lineEnd ++ rest := by
  rw [List.append_assoc, List.dropWhile_append_of_pos blank]
  rcases ends with rfl | rfl <;> rfl

theorem dropBlankLine?_append
    {pads lineEnd : Text}
    (blank : ∀ c ∈ pads, isPad c)
    (ends : IsLineEnd lineEnd)
    (rest : Text) :
    dropBlankLine? (pads ++ lineEnd ++ rest) = some rest := by
  rw [dropBlankLine?, dropWhile_isPad_append blank ends, dropLineEnd?_append ends]

theorem eq_append_of_dropBlankLine?
    {t rest : Text}
    (dropped : dropBlankLine? t = some rest) :
    ∃ pads lineEnd, t = pads ++ lineEnd ++ rest ∧ (∀ c ∈ pads, isPad c) ∧ IsLineEnd lineEnd := by
  obtain ⟨lineEnd, afterPad, ends⟩ := eq_append_of_dropLineEnd? dropped
  refine ⟨t.takeWhile isPad, lineEnd, ?_, List.all_eq_true.1 List.all_takeWhile, ends⟩
  rw [List.append_assoc, ← afterPad, List.takeWhile_append_dropWhile]

theorem exists_line_of_dropBlankLine?
    {t rest : Text}
    (dropped : dropBlankLine? t = some rest) :
    ∃ line, t = line ++ rest ∧ BlankLines line ∧ line ≠ [] := by
  obtain ⟨pads, lineEnd, parts, blank, ends⟩ := eq_append_of_dropBlankLine? dropped
  exact ⟨pads ++ lineEnd, parts, .single blank ends,
    List.ne_nil_of_mem (List.mem_append_right pads ends.feed_mem)⟩

theorem dropBlankLines_of_some
    {t rest : Text}
    (dropped : dropBlankLine? t = some rest) :
    dropBlankLines t = dropBlankLines rest := by
  rw [dropBlankLines]
  split
  · next other found =>
      rw [dropped] at found
      rw [Option.some.inj found]
  · next kept =>
      rw [dropped] at kept
      cases kept

theorem dropBlankLines_of_none
    {t : Text}
    (kept : dropBlankLine? t = none) :
    dropBlankLines t = t := by
  rw [dropBlankLines]
  split
  · next rest dropped =>
      rw [kept] at dropped
      cases dropped
  · rfl

theorem dropBlankLines_append
    {a : Text}
    (blank : BlankLines a)
    (rest : Text) :
    dropBlankLines (a ++ rest) = dropBlankLines rest := by
  induction blank with
  | nil => rfl
  | line pads ends _ ih =>
      rw [List.append_assoc, dropBlankLines_of_some (dropBlankLine?_append pads ends _), ih]

theorem eq_append_dropBlankLines (t : Text) :
    ∃ head, t = head ++ dropBlankLines t ∧ BlankLines head := by
  fun_induction dropBlankLines t with
  | case1 t rest dropped ih =>
      obtain ⟨pads, lineEnd, rfl, blank, ends⟩ := eq_append_of_dropBlankLine? dropped
      obtain ⟨head, parts, lines⟩ := ih
      refine ⟨pads ++ lineEnd ++ head, ?_, .line blank ends lines⟩
      rw [List.append_assoc _ head, ← parts]
  | case2 t kept => exact ⟨[], rfl, .nil⟩

theorem longest_blankLines
    {head rest : Text}
    (lines : BlankLines head)
    (kept : dropBlankLines (head ++ rest) = rest) :
    IsLongestPrefix BlankLines (head ++ rest) head := by
  refine ⟨List.prefix_append head rest, lines, ?_⟩
  rintro b ⟨after, parts⟩ blank
  have shorter : rest.length ≤ after.length := by
    obtain ⟨more, later, _⟩ := eq_append_dropBlankLines after
    rw [← parts, dropBlankLines_append blank] at kept
    rw [later, kept, List.length_append]
    omega
  have total := congrArg List.length parts
  rw [List.length_append, List.length_append] at total
  omega

/-! ## Blank tails -/

theorem BlankTail.isEdgeChar
    {t : Text}
    (blank : BlankTail t) :
    ∀ c ∈ t, isEdgeChar c := by
  induction blank with
  | nil => simp
  | pad pad _ ih => exact List.forall_mem_cons.2 ⟨isEdgeChar_of_isPad pad, ih⟩
  | lineEnd ends _ ih => exact List.forall_mem_append.2 ⟨ends.isEdgeChar, ih⟩

theorem BlankTail.append
    {a b : Text}
    (first : BlankTail a)
    (second : BlankTail b) :
    BlankTail (a ++ b) := by
  induction first with
  | nil => exact second
  | pad pad _ ih => exact .pad pad ih
  | lineEnd ends _ ih =>
      rw [List.append_assoc]
      exact .lineEnd ends ih

theorem BlankTail.singleton
    {c : Char}
    (blank : c = '\n' ∨ isPad c) :
    BlankTail [c] := by
  rcases blank with rfl | pad
  · exact .lineEnd (.inl rfl) .nil
  · exact .pad pad .nil

theorem BlankTail.of_isPad
    {t : Text}
    (pads : ∀ c ∈ t, isPad c) :
    BlankTail t := by
  induction t with
  | nil => exact .nil
  | cons c t ih =>
      obtain ⟨first, others⟩ := List.forall_mem_cons.1 pads
      exact .pad first (ih others)

theorem BlankLines.blankTail
    {t : Text}
    (blank : BlankLines t) :
    BlankTail t := by
  induction blank with
  | nil => exact .nil
  | line pads ends _ ih =>
      rw [List.append_assoc]
      exact (BlankTail.of_isPad pads).append (.lineEnd ends ih)

theorem BlankTail.of_cons
    {c : Char}
    {t : Text}
    (blank : BlankTail (c :: t)) :
    BlankTail t := by
  generalize whole : c :: t = u at blank
  cases blank with
  | nil => cases whole
  | pad _ later => exact (List.cons.inj whole).2 ▸ later
  | lineEnd ends later =>
      rcases ends with rfl | rfl
      · exact (List.cons.inj whole).2 ▸ later
      · exact (List.cons.inj whole).2 ▸ .lineEnd (.inl rfl) later

theorem BlankTail.of_append
    {a b : Text}
    (blank : BlankTail (a ++ b)) :
    BlankTail b := by
  induction a with
  | nil => exact blank
  | cons c a ih => exact ih blank.of_cons

theorem blankTail_iff_dropWhile (t : Text) : BlankTail t ↔ BlankTail (t.dropWhile isPad) := by
  have parts : t.takeWhile isPad ++ t.dropWhile isPad = t := List.takeWhile_append_dropWhile
  constructor
  · intro blank
    rw [← parts] at blank
    exact blank.of_append
  · intro blank
    rw [← parts]
    exact (BlankTail.of_isPad (List.all_eq_true.1 List.all_takeWhile)).append blank

theorem blankTail_iff_of_dropLineEnd?
    {t rest : Text}
    (dropped : dropLineEnd? t = some rest) :
    BlankTail t ↔ BlankTail (rest.dropWhile isPad) := by
  obtain ⟨lineEnd, rfl, ends⟩ := eq_append_of_dropLineEnd? dropped
  rw [← blankTail_iff_dropWhile]
  exact ⟨BlankTail.of_append, .lineEnd ends⟩

/-- A text that begins neither with padding nor with a line end is no blank tail. -/
theorem not_blankTail
    {t : Text}
    (some_left : t ≠ [])
    (unpadded : ∀ c ∈ t.head?, isPad c = false)
    (kept : dropLineEnd? t = none) :
    ¬ BlankTail t := by
  intro blank
  cases blank with
  | nil => exact some_left rfl
  | pad pad _ => simp [unpadded _ rfl] at pad
  | lineEnd ends _ => simp [dropLineEnd?_append ends] at kept

/-- A character that may stand in a blank tail, given what follows it. -/
def MayTrail (c : Char) (following : Text) : Prop :=
  isPad c ∨ c = '\n' ∨ (c = '\r' ∧ following.head? = some '\n')

theorem BlankTail.mayTrail
    {t : Text}
    (blank : BlankTail t) :
    ∀ before c following, t = before ++ c :: following → MayTrail c following := by
  induction blank with
  | nil =>
      intro before c following parts
      exact absurd parts.symm (List.append_ne_nil_of_right_ne_nil before (List.cons_ne_nil c _))
  | pad pad _ ih =>
      intro before c following parts
      cases before with
      | nil =>
          obtain ⟨rfl, -⟩ := List.cons.inj parts
          exact .inl pad
      | cons d before => exact ih before c following (List.cons.inj parts).2
  | lineEnd ends _ ih =>
      intro before c following parts
      rcases ends with rfl | rfl
      · cases before with
        | nil =>
            obtain ⟨rfl, -⟩ := List.cons.inj parts
            exact .inr (.inl rfl)
        | cons d before => exact ih before c following (List.cons.inj parts).2
      · rcases before with _ | ⟨d, _ | ⟨e, before⟩⟩
        · obtain ⟨rfl, rfl⟩ := List.cons.inj parts
          exact .inr (.inr ⟨rfl, rfl⟩)
        · obtain ⟨rfl, -⟩ := List.cons.inj (List.cons.inj parts).2
          exact .inr (.inl rfl)
        · exact ih before c following (List.cons.inj (List.cons.inj parts).2).2

theorem eq_append_dropTrailing (t : Text) :
    ∃ tail, t = tail ++ dropTrailing t ∧ BlankTail tail.reverse ∧
      ∀ c ∈ (dropTrailing t).head?, ¬ MayTrail c tail.reverse := by
  fun_induction dropTrailing t with
  | case1 => exact ⟨[], rfl, .nil, by simp⟩
  | case2 cs ih =>
      obtain ⟨tail, parts, blank, firm⟩ := ih
      refine ⟨'\n' :: '\r' :: tail, congrArg ('\n' :: '\r' :: ·) parts, ?_, ?_⟩
      · have both := blank.append (.lineEnd (.inr rfl) .nil)
        simpa using both
      · intro c first trails
        refine firm c first ?_
        rcases trails with pad | feed | ⟨carriage, following⟩
        · exact .inl pad
        · exact .inr (.inl feed)
        · refine .inr (.inr ⟨carriage, ?_⟩)
          cases reversed : tail.reverse <;> simp [reversed] at following ⊢
          exact following
  | case3 c cs noPair blank ih =>
      obtain ⟨tail, parts, tailBlank, firm⟩ := ih
      refine ⟨c :: tail, congrArg (c :: ·) parts, ?_, ?_⟩
      · rw [List.reverse_cons]
        exact tailBlank.append (.singleton blank)
      · intro d first trails
        refine firm d first ?_
        rcases trails with pad | feed | ⟨rfl, following⟩
        · exact .inl pad
        · exact .inr (.inl feed)
        · refine .inr (.inr ⟨rfl, ?_⟩)
          cases tail with
          | nil =>
              -- The carriage return would stand right before the line feed.
              obtain ⟨more, rest⟩ := List.head?_eq_some_iff.1 first
              rw [rest, List.nil_append] at parts
              obtain rfl : c = '\n' := by simpa using following
              exact (noPair more rfl parts).elim
          | cons e tail =>
              cases reversed : (e :: tail).reverse with
              | nil => simp at reversed
              | cons f others => simpa [reversed] using following
  | case4 c cs noPair ink =>
      refine ⟨[], rfl, .nil, ?_⟩
      intro d first trails
      obtain rfl : c = d := by simpa using first
      rcases trails with pad | feed | ⟨_, following⟩
      · exact ink (.inr pad)
      · exact ink (.inl feed)
      · simp at following

/-- The last character of a body may not stand before its tail in a blank tail. -/
def Firm (body tail : Text) : Prop :=
  ∀ c ∈ body.getLast?, ¬ MayTrail c tail

theorem Firm.of_append
    {body a b : Text}
    (firm : Firm body (a ++ b)) :
    Firm body a := by
  intro c last trails
  refine firm c last ?_
  rcases trails with pad | feed | ⟨carriage, following⟩
  · exact .inl pad
  · exact .inr (.inl feed)
  · refine .inr (.inr ⟨carriage, ?_⟩)
    rw [List.head?_append, following, Option.some_or]

theorem not_blankTail_append
    {body tail m : Text}
    (firm : Firm body tail)
    (some_left : m ≠ [])
    (inside : m <:+ body) :
    ¬ BlankTail (m ++ tail) := by
  intro blank
  obtain ⟨front, rfl⟩ := inside
  obtain ⟨others, c, rfl⟩ := (List.eq_nil_or_concat m).resolve_left some_left
  exact firm c (by simp) (blank.mayTrail others c tail (by simp))

theorem longest_blankTail
    {body tail : Text}
    (blank : BlankTail tail)
    (firm : Firm body tail) :
    IsLongestSuffix BlankTail (body ++ tail) tail := by
  refine ⟨List.suffix_append body tail, blank, fun s ends trails => ?_⟩
  refine Nat.le_of_not_lt fun longer => ?_
  obtain ⟨m, rfl⟩ := List.suffix_of_suffix_length_le (List.suffix_append body tail) ends
    (Nat.le_of_lt longer)
  have some_left : m ≠ [] := by
    rintro rfl
    exact Nat.lt_irrefl _ longer
  obtain ⟨front, parts⟩ := ends
  rw [← List.append_assoc] at parts
  exact not_blankTail_append firm some_left ⟨front, List.append_cancel_right parts⟩ trails

/-! ## Cuts -/

theorem IsLongestPrefix.unique
    {property : Text → Prop}
    {t a b : Text}
    (first : IsLongestPrefix property t a)
    (second : IsLongestPrefix property t b) :
    a = b := by
  have size : a.length = b.length :=
    Nat.le_antisymm (second.longest a first.starts first.holds)
      (first.longest b second.starts second.holds)
  exact (List.prefix_of_prefix_length_le first.starts second.starts (Nat.le_of_eq size)).eq_of_length
    size

theorem IsLongestSuffix.unique
    {property : Text → Prop}
    {t a b : Text}
    (first : IsLongestSuffix property t a)
    (second : IsLongestSuffix property t b) :
    a = b := by
  have size : a.length = b.length :=
    Nat.le_antisymm (second.longest a first.ends first.holds)
      (first.longest b second.ends second.holds)
  exact (List.suffix_of_suffix_length_le first.ends second.ends (Nat.le_of_eq size)).eq_of_length size

/-- A text is cut at its edges in one way only. -/
theorem Edges.Cuts.unique
    {e f : Edges}
    {t : Text}
    (first : e.Cuts t)
    (second : f.Cuts t) :
    e = f := by
  obtain ⟨head, body, tail⟩ := e
  obtain ⟨otherHead, otherBody, otherTail⟩ := f
  obtain rfl : head = otherHead := first.head.unique second.head
  have rest : body ++ tail = otherBody ++ otherTail := by
    have parts := first.whole.symm.trans second.whole
    rw [List.append_assoc, List.append_assoc] at parts
    exact List.append_cancel_left parts
  obtain rfl : tail = otherTail := by
    refine first.tail.unique ?_
    rw [rest]
    exact second.tail
  rw [List.append_cancel_right rest]

/-- What trimming the end of a text leaves and takes off. -/
theorem exists_firm (t : Text) :
    ∃ body tail, t = body ++ tail ∧ body = (dropTrailing t.reverse).reverse ∧
      BlankTail tail ∧ Firm body tail := by
  obtain ⟨tail, parts, blank, firm⟩ := eq_append_dropTrailing t.reverse
  refine ⟨(dropTrailing t.reverse).reverse, tail.reverse, ?_, rfl, blank, ?_⟩
  · rw [← List.reverse_append, ← parts, List.reverse_reverse]
  · simpa only [Firm, List.getLast?_reverse] using firm

/-- The parts of a text and what they are made of. -/
theorem exists_edges (t : Text) :
    ∃ head body tail, t = head ++ (body ++ tail) ∧ edges t = ⟨head, body, tail⟩ ∧
      dropBlankLines t = body ++ tail ∧ BlankLines head ∧ BlankTail tail ∧ Firm body tail := by
  obtain ⟨head, front, lines⟩ := eq_append_dropBlankLines t
  obtain ⟨body, tail, rest, trimmed, blank, firm⟩ := exists_firm (dropBlankLines t)
  have passed : t.take (t.length - (dropBlankLines t).length) = head := by
    have size := congrArg List.length front
    rw [List.length_append] at size
    rw [Nat.sub_eq_of_eq_add size]
    exact (List.prefix_iff_eq_take.1 ⟨_, front.symm⟩).symm
  have left : (dropBlankLines t).drop body.length = tail := by rw [rest, List.drop_left]
  refine ⟨head, body, tail, rest ▸ front, ?_, rest, lines, blank, firm⟩
  rw [edges, passed, ← trimmed, left]

theorem cuts_edges (t : Text) : (edges t).Cuts t := by
  obtain ⟨head, body, tail, whole, cut, rest, lines, blank, firm⟩ := exists_edges t
  rw [cut]
  refine ⟨by rw [whole, List.append_assoc], ?_, longest_blankTail blank firm⟩
  have kept : dropBlankLines (body ++ tail) = body ++ tail := by
    rw [← dropBlankLines_append lines, ← whole, rest]
  rw [whole]
  exact longest_blankLines lines (by rw [dropBlankLines_append lines, kept])

theorem Edges.Cuts.eq_edges
    {e : Edges}
    {t : Text}
    (cuts : e.Cuts t) :
    e = edges t :=
  cuts.unique (cuts_edges t)

theorem firm_edges (t : Text) : Firm (edges t).body (edges t).tail := by
  obtain ⟨head, body, tail, _, cut, _, _, _, firm⟩ := exists_edges t
  rw [cut]
  exact firm

/-- The body does not begin with a blank line, since the head would be longer. -/
theorem Edges.Cuts.inked
    {e : Edges}
    {t : Text}
    (cuts : e.Cuts t) :
    ∀ l, l <+: e.body → BlankLines l → l = [] := by
  rintro l ⟨rest, body⟩ blank
  have starts : e.head ++ l <+: t := ⟨rest ++ e.tail, by rw [cuts.whole, ← body]; simp⟩
  have short := cuts.head.longest _ starts (cuts.head.holds.append blank)
  rw [List.length_append] at short
  exact List.eq_nil_of_length_eq_zero (by omega)

/-- A body without blank lines at its beginning is found again between a head and a tail. -/
theorem cuts_of_firm
    {e : Edges}
    (lines : BlankLines e.head)
    (some_body : e.body ≠ [])
    (inked : ∀ l, l <+: e.body → BlankLines l → l = [])
    (blank : BlankTail e.tail)
    (firm : Firm e.body e.tail) :
    e.Cuts (e.head ++ e.body ++ e.tail) := by
  refine ⟨rfl, ?_, longest_blankTail blank firm⟩
  rw [List.append_assoc]
  refine longest_blankLines lines ?_
  rw [dropBlankLines_append lines]
  refine dropBlankLines_of_none (Option.eq_none_iff_forall_ne_some.2 fun rest dropped => ?_)
  obtain ⟨line, parts, blankLine, nonempty⟩ := exists_line_of_dropBlankLine? dropped
  rcases List.append_eq_append_iff.1 parts with ⟨more, longer, tail⟩ | ⟨more, body, _⟩
  · -- The line would go on after the body, so the body would belong to a blank tail.
    have firmer : Firm e.body more := Firm.of_append (tail ▸ firm)
    exact not_blankTail_append firmer some_body List.suffix_rfl (longer ▸ blankLine.blankTail)
  · exact nonempty (inked line ⟨more, body.symm⟩ blankLine)

/-! ## Trimmed texts -/

theorem trimEdges_eq_body (t : Text) : trimEdges t = (edges t).body := by
  simp [trimEdges, settleEdges, EdgeMode.lineEnd]

/-- A text is its trimmed form between characters of its edges. -/
theorem eq_append_trimEdges (t : Text) :
    ∃ head tail, t = head ++ trimEdges t ++ tail ∧
      (∀ c ∈ head, isEdgeChar c) ∧ ∀ c ∈ tail, isEdgeChar c := by
  have cuts := cuts_edges t
  rw [trimEdges_eq_body]
  exact ⟨_, _, cuts.whole, cuts.head.holds.isEdgeChar, cuts.tail.holds.isEdgeChar⟩

theorem trimEdges_of_ends
    {t : Text}
    (inked : ∀ l, l <+: t → BlankLines l → l = [])
    (ends : ∀ c ∈ t.getLast?, isPad c = false ∧ c ≠ '\n') :
    trimEdges t = t := by
  by_cases empty : t = []
  · subst empty
    obtain ⟨head, tail, parts, _⟩ := eq_append_trimEdges []
    exact (List.append_eq_nil_iff.1 (List.append_eq_nil_iff.1 parts.symm).1).2
  have firm : Firm t [] := by
    rintro c last (pad | feed | ⟨_, following⟩)
    · simp [(ends c last).1] at pad
    · exact (ends c last).2 feed
    · cases following
  have cuts : Edges.Cuts ⟨[], t, []⟩ ([] ++ t ++ []) := cuts_of_firm .nil empty inked .nil firm
  rw [List.nil_append, List.append_nil] at cuts
  rw [trimEdges_eq_body, ← cuts.eq_edges]

theorem trimEdges_of_no_feed
    {t : Text}
    (clean : '\n' ∉ t)
    (ends : ∀ c ∈ t.getLast?, isPad c = false) :
    trimEdges t = t := by
  refine trimEdges_of_ends (fun l inside blank => ?_) fun c last => ⟨ends c last, ?_⟩
  · cases blank with
    | nil => rfl
    | line _ lineEnd _ =>
        refine absurd (inside.subset ?_) clean
        exact List.mem_append_left _ (List.mem_append_right _ lineEnd.feed_mem)
  · rintro rfl
    exact clean (List.mem_of_getLast? last)

theorem getLast?_trimEdges (t : Text) : (trimEdges t).getLast? ≠ some '\n' := by
  rw [trimEdges_eq_body]
  exact fun last => firm_edges t '\n' last (.inr (.inl rfl))

end Stencil.Block
