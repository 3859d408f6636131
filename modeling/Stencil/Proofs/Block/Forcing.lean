import Stencil.Proofs.Block.Patterns

/-!
Forcing line ends on a text.  A line end at the start is found whatever follows it, and one at the
end whatever stands before it.  So a line end that is put at one side never hides the one at the other
side, and nothing is added a second time.
-/
namespace Stencil.Block

open Text Pattern

/-! ## Plain words -/

theorem isSome_dropLineEnd? (t : Text) :
    (dropLineEnd? t).isSome ↔ ∃ lineEnd, IsLineEnd lineEnd ∧ lineEnd <+: t := by
  constructor
  · intro dropped
    obtain ⟨rest, found⟩ := Option.isSome_iff_exists.1 dropped
    obtain ⟨lineEnd, parts, ends⟩ := eq_append_of_dropLineEnd? found
    exact ⟨lineEnd, ends, rest, parts.symm⟩
  · rintro ⟨lineEnd, ends, rest, rfl⟩
    rw [dropLineEnd?_append ends]
    rfl

theorem startsWithLineEnd_iff (t : Text) :
    startsWithLineEnd t true ↔
      ∃ pads lineEnd rest, t = pads ++ lineEnd ++ rest ∧
        (∀ c ∈ pads, isPad c) ∧ IsLineEnd lineEnd := by
  change (dropBlankLine? t).isSome ↔ _
  constructor
  · intro opened
    obtain ⟨rest, dropped⟩ := Option.isSome_iff_exists.1 opened
    obtain ⟨pads, lineEnd, parts⟩ := eq_append_of_dropBlankLine? dropped
    exact ⟨pads, lineEnd, rest, parts⟩
  · rintro ⟨pads, lineEnd, rest, rfl, blank, ends⟩
    rw [dropBlankLine?_append blank ends]
    rfl

theorem endsWithLineEnd_false_iff (t : Text) : endsWithLineEnd t false ↔ ['\n'] <:+ t := by
  change (t.reverse.head? == some '\n') = true ↔ _
  rw [beq_iff_eq, List.head?_reverse, List.getLast?_eq_some_iff]
  exact exists_congr fun front => eq_comm

theorem endsWithLineEnd_iff (t : Text) :
    endsWithLineEnd t true ↔
      ∃ front pads, t = front ++ '\n' :: pads ∧ ∀ c ∈ pads, isPad c := by
  change ((t.reverse.dropWhile isPad).head? == some '\n') = true ↔ _
  rw [beq_iff_eq]
  constructor
  · intro first
    obtain ⟨back, left⟩ := List.head?_eq_some_iff.1 first
    refine ⟨back.reverse, (t.reverse.takeWhile isPad).reverse, ?_, ?_⟩
    · have parts : t.reverse = t.reverse.takeWhile isPad ++ '\n' :: back := by
        rw [← left, List.takeWhile_append_dropWhile]
      have whole := congrArg List.reverse parts
      simpa using whole
    · intro c member
      exact List.all_eq_true.1 List.all_takeWhile c (List.mem_reverse.1 member)
  · rintro ⟨front, pads, rfl, blank⟩
    have parts : (front ++ '\n' :: pads).reverse = pads.reverse ++ '\n' :: front.reverse := by
      simp
    rw [parts, List.dropWhile_append_of_pos fun c member => blank c (List.mem_reverse.1 member)]
    rfl

/-! ## Patterns -/

theorem rest?_opening (t : Text) : Grammar.opening.rest? t = dropBlankLine? t := by
  rw [rest?, Grammar.opening, attempt_blankLine]
  cases dropBlankLine? t <;> rfl

theorem fullMatch?_closing (t : Text) :
    Grammar.closing.fullMatch? t =
      (dropLineEnd? t).bind fun rest => finish (rest.dropWhile isPad) [] := by
  rw [fullMatch?_eq, Grammar.closing, attempt_paddedEnd]
  exact fun c rest _ => finish_cons c rest []

theorem isSome_fullMatch?_closing (t : Text) :
    (Grammar.closing.fullMatch? t).isSome ↔
      ∃ lineEnd pads, t = lineEnd ++ pads ∧ IsLineEnd lineEnd ∧ ∀ c ∈ pads, isPad c := by
  rw [fullMatch?_closing]
  constructor
  · intro matched
    cases dropped : dropLineEnd? t with
    | none => simp [dropped] at matched
    | some pads =>
        obtain ⟨lineEnd, parts, ends⟩ := eq_append_of_dropLineEnd? dropped
        refine ⟨lineEnd, pads, parts, ends, List.dropWhile_eq_nil_iff.1 ?_⟩
        by_contra left
        rw [dropped, Option.bind_some, finish, if_neg left] at matched
        cases matched
  · rintro ⟨lineEnd, pads, rfl, ends, blank⟩
    rw [dropLineEnd?_append ends, Option.bind_some, List.dropWhile_eq_nil_iff.2 blank]
    rfl

theorem isSome_matchToEnd?_closing (t : Text) :
    (Grammar.closing.matchToEnd? t).isSome ↔
      ∃ front pads, t = front ++ '\n' :: pads ∧ ∀ c ∈ pads, isPad c := by
  rw [isSome_matchToEnd?]
  constructor
  · rintro ⟨_, ⟨front, rfl⟩, matched⟩
    obtain ⟨lineEnd, pads, rfl, ends, blank⟩ := (isSome_fullMatch?_closing _).1 matched
    -- A carriage return before the line feed is a part of the front.
    obtain ⟨before, rfl, _⟩ := ends.exists_eq
    exact ⟨front ++ before, pads, by simp, blank⟩
  · rintro ⟨front, pads, rfl, blank⟩
    have matched : (Grammar.closing.fullMatch? ('\n' :: pads)).isSome :=
      (isSome_fullMatch?_closing _).2 ⟨['\n'], pads, rfl, .inl rfl, blank⟩
    exact ⟨'\n' :: pads, List.suffix_append front _, matched⟩

/-- The pattern finds a line end at the start of a text where the direct reader does. -/
theorem startsWithLineEnd_eq (t : Text) (skipPad : Bool) :
    Grammar.startsWithLineEnd t skipPad = startsWithLineEnd t skipPad := by
  cases skipPad with
  | false =>
      rw [Bool.eq_iff_iff]
      refine Iff.trans ?_ (isSome_dropLineEnd? t).symm
      simp [Grammar.startsWithLineEnd, IsLineEnd, or_comm]
  | true => exact congrArg Option.isSome (rest?_opening t)

/-- The pattern finds a line end at the end of a text where the direct reader does: a carriage return
before the line feed makes no difference. -/
theorem endsWithLineEnd_eq (t : Text) (skipPad : Bool) :
    Grammar.endsWithLineEnd t skipPad = endsWithLineEnd t skipPad := by
  cases skipPad with
  | false =>
      rw [Bool.eq_iff_iff, endsWithLineEnd_false_iff]
      exact List.isSuffixOf_iff_suffix
  | true =>
      rw [Bool.eq_iff_iff, endsWithLineEnd_iff]
      exact isSome_matchToEnd?_closing t

/-! ## Texts before and after -/

theorem startsWithLineEnd_append
    {t : Text}
    (starts : startsWithLineEnd t true)
    (u : Text) :
    startsWithLineEnd (t ++ u) true := by
  obtain ⟨pads, lineEnd, rest, rfl, blank, ends⟩ := (startsWithLineEnd_iff t).1 starts
  exact (startsWithLineEnd_iff _).2 ⟨pads, lineEnd, rest ++ u, by simp, blank, ends⟩

theorem IsLineEnd.startsWithLineEnd_append
    {lineEnd : Text}
    (ends : IsLineEnd lineEnd)
    (t : Text) :
    startsWithLineEnd (lineEnd ++ t) true :=
  (startsWithLineEnd_iff _).2 ⟨[], lineEnd, t, rfl, List.forall_mem_nil _, ends⟩

theorem append_endsWithLineEnd
    {t : Text}
    (ends : endsWithLineEnd t true)
    (u : Text) :
    endsWithLineEnd (u ++ t) true := by
  obtain ⟨front, pads, rfl, blank⟩ := (endsWithLineEnd_iff t).1 ends
  exact (endsWithLineEnd_iff _).2 ⟨u ++ front, pads, by simp, blank⟩

theorem IsLineEnd.append_endsWithLineEnd
    {lineEnd : Text}
    (ends : IsLineEnd lineEnd)
    (t : Text) :
    endsWithLineEnd (t ++ lineEnd) true := by
  obtain ⟨before, rfl, _⟩ := ends.exists_eq
  exact (endsWithLineEnd_iff _).2 ⟨t ++ before, [], by simp, List.forall_mem_nil _⟩

/-! ## Forced line ends -/

/-- What is put at one side of a text that is not empty. -/
def missing (asked present : Bool) (lineEnd : Text) : Text :=
  if asked && !present then lineEnd else []

variable {t lineEnd : Text} {head tail asked present : Bool}

theorem missing_of_present (found : asked → present) : missing asked present lineEnd = [] := by
  cases asked with
  | false => rfl
  | true => rw [found rfl]; rfl

theorem isAdded_missing (asked present : Bool) (lineEnd : Text) :
    IsAdded asked present lineEnd (missing asked present lineEnd) := by
  cases asked with
  | false => exact .inl rfl
  | true =>
      cases present with
      | false => exact .inr ⟨rfl, rfl, rfl⟩
      | true => exact .inl rfl

theorem startsWithLineEnd_missing
    (lineEnds : IsLineEnd lineEnd)
    (t : Text) :
    startsWithLineEnd (missing true (startsWithLineEnd t true) lineEnd ++ t) true := by
  cases present : startsWithLineEnd t true with
  | false => exact lineEnds.startsWithLineEnd_append t
  | true => exact present

theorem endsWithLineEnd_missing
    (lineEnds : IsLineEnd lineEnd)
    (t : Text) :
    endsWithLineEnd (t ++ missing true (endsWithLineEnd t true) lineEnd) true := by
  cases present : endsWithLineEnd t true with
  | false => exact lineEnds.append_endsWithLineEnd t
  | true =>
      rw [missing_of_present fun _ => rfl, List.append_nil]
      exact present

theorem forceLineEnds_of_ne_nil
    (some_text : t ≠ [])
    (head tail : Bool)
    (lineEnd : Text) :
    forceLineEnds t head tail lineEnd =
      missing head (startsWithLineEnd t true) lineEnd ++ t ++
        missing tail (endsWithLineEnd t true) lineEnd := by
  rw [forceLineEnds, if_neg (by simpa using some_text)]
  rfl

-- Both sides are judged by the text as it was: the line feed at the end makes a line end of the
-- carriage return, and one is put at the start all the same.
example : forceLineEnds ['\r'] true true ['\n'] = ['\n', '\r', '\n'] := by decide

/-- A text that has what is asked for stays as it is. -/
theorem forceLineEnds_of_present
    (starts : head → startsWithLineEnd t true)
    (ends : tail → endsWithLineEnd t true)
    (lineEnd : Text) :
    forceLineEnds t head tail lineEnd = t := by
  by_cases empty : t = []
  · subst empty
    have headless : head = false :=
      Bool.eq_false_iff.2 fun asked => absurd (starts asked) (by decide)
    have tailless : tail = false :=
      Bool.eq_false_iff.2 fun asked => absurd (ends asked) (by decide)
    rw [headless, tailless]
    rfl
  · rw [forceLineEnds_of_ne_nil empty, missing_of_present starts, missing_of_present ends,
      List.nil_append, List.append_nil]

theorem forcesLineEnds_of_ne_nil
    (lineEnds : IsLineEnd lineEnd)
    (some_text : t ≠ [])
    (head tail : Bool) :
    ForcesLineEnds head tail lineEnd t (forceLineEnds t head tail lineEnd) := by
  rw [forceLineEnds_of_ne_nil some_text]
  refine ⟨?_, ?_, _, _, rfl, ?_, ?_⟩
  · rintro rfl
    rw [startsWithLineEnd_eq]
    exact startsWithLineEnd_append (startsWithLineEnd_missing lineEnds t) _
  · rintro rfl
    rw [endsWithLineEnd_eq, List.append_assoc]
    exact append_endsWithLineEnd (endsWithLineEnd_missing lineEnds t) _
  · rw [startsWithLineEnd_eq]
    exact isAdded_missing _ _ _
  · rw [endsWithLineEnd_eq]
    exact isAdded_missing _ _ _

/-- One line end serves both sides of an empty text. -/
theorem forcesLineEnds_nil
    (lineEnds : IsLineEnd lineEnd)
    (head tail : Bool) :
    ForcesLineEnds head tail lineEnd [] (forceLineEnds [] head tail lineEnd) := by
  have starts : Grammar.startsWithLineEnd lineEnd true := by
    rw [startsWithLineEnd_eq, ← List.append_nil lineEnd]
    exact lineEnds.startsWithLineEnd_append []
  have ends : Grammar.endsWithLineEnd lineEnd true := by
    rw [endsWithLineEnd_eq]
    exact lineEnds.append_endsWithLineEnd []
  have headless : Grammar.startsWithLineEnd [] true = false := startsWithLineEnd_eq [] true
  have tailless : Grammar.endsWithLineEnd [] true = false := endsWithLineEnd_eq [] true
  cases head with
  | true =>
      refine ⟨fun _ => starts, fun _ => ends, lineEnd, [], by simp [forceLineEnds], ?_, .inl rfl⟩
      exact .inr ⟨rfl, rfl, headless⟩
  | false =>
      cases tail with
      | true =>
          refine ⟨nofun, fun _ => ends, [], lineEnd, rfl, .inl rfl, ?_⟩
          exact .inr ⟨rfl, rfl, tailless⟩
      | false => exact ⟨nofun, nofun, [], [], rfl, .inl rfl, .inl rfl⟩

/-- A text gets the line ends that are asked for, at most one at each side and none where there was
one.  It stays as it is exactly when it had them, and so it does the second time. -/
theorem line_ends_forced_once
    (lineEnds : IsLineEnd lineEnd)
    (t : Text)
    (head tail : Bool) :
    ForcesLineEnds head tail lineEnd t (forceLineEnds t head tail lineEnd) ∧
      (forceLineEnds t head tail lineEnd = t ↔
        (head → Grammar.startsWithLineEnd t true) ∧ (tail → Grammar.endsWithLineEnd t true)) ∧
      forceLineEnds (forceLineEnds t head tail lineEnd) head tail lineEnd =
        forceLineEnds t head tail lineEnd := by
  have unchanged : ∀ {u : Text}, (head → Grammar.startsWithLineEnd u true) →
      (tail → Grammar.endsWithLineEnd u true) → forceLineEnds u head tail lineEnd = u := by
    intro u starts ends
    simp only [startsWithLineEnd_eq, endsWithLineEnd_eq] at starts ends
    exact forceLineEnds_of_present starts ends lineEnd
  have forces : ForcesLineEnds head tail lineEnd t (forceLineEnds t head tail lineEnd) := by
    by_cases empty : t = []
    · rw [empty]
      exact forcesLineEnds_nil lineEnds head tail
    · exact forcesLineEnds_of_ne_nil lineEnds empty head tail
  refine ⟨forces, ⟨fun same => ?_, fun present => unchanged present.1 present.2⟩,
    unchanged forces.starts forces.ends⟩
  rw [same] at forces
  exact ⟨forces.starts, forces.ends⟩

/-- A text of spaces and tabs gets a line end at both sides, though each would serve as one for the
other. -/
theorem line_ends_forced_once_padded :
    IsLineEnd "\r\n".toList ∧
      ForcesLineEnds true true "\r\n".toList " \t".toList "\r\n \t\r\n".toList ∧
      forceLineEnds "\r\n \t\r\n".toList true true "\r\n".toList = "\r\n \t\r\n".toList := by
  have lineEnds : IsLineEnd "\r\n".toList := .inr (by decide)
  have forced : forceLineEnds " \t".toList true true "\r\n".toList = "\r\n \t\r\n".toList := by
    decide
  obtain ⟨once, _, again⟩ := line_ends_forced_once lineEnds " \t".toList true true
  rw [forced] at once again
  exact ⟨lineEnds, once, again⟩

end Stencil.Block
