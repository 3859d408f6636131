import Stencil.Block.Scan
import Stencil.Proofs.Block.Stripping
import Stencil.Proofs.Text.Pattern
import Stencil.Proofs.Text.Trimming

/-!
Three ways to find a line.  A text is cut into its lines once for all, a pattern takes the line at a
position, and two scanners look for its ends; at every position of every text they find the same
line.
-/
namespace Stencil.Block

open Text

variable {t line a back front : Text}

/-! ## Lines by a pattern -/

theorem inLine_of_clean
    (clean : '\n' ∉ a)
    (c : Char)
    (member : c ∈ a) :
    Grammar.inLine c := by
  have other : c ≠ '\n' := fun same => clean (same ▸ member)
  simpa [Grammar.inLine] using other

/-- No character of a line is given back, since none of them is the line feed that has to follow. -/
theorem rest?_endedLine (t : Text) :
    Grammar.endedLine.rest? t =
      (Pattern.one (· == '\n')).attempt (fun rest _ => some rest) (t.dropWhile Grammar.inLine) [] := by
  apply Pattern.passMost_eq_of_apart
  intro c rest passed
  have other : c ≠ '\n' := by simpa [Grammar.inLine] using passed
  simp [Pattern.attempt, other]

theorem afterLine?_append_feed
    (clean : '\n' ∉ a)
    (rest : Text) :
    Grammar.afterLine? (a ++ '\n' :: rest) = some rest := by
  have left : (a ++ '\n' :: rest).dropWhile Grammar.inLine = '\n' :: rest :=
    List.dropWhile_append_of_pos (inLine_of_clean clean)
  rw [Grammar.afterLine?, rest?_endedLine, left]
  rfl

theorem afterLine?_of_no_feed
    (clean : '\n' ∉ a)
    (nonempty : a ≠ []) :
    Grammar.afterLine? a = some [] := by
  have left : a.dropWhile Grammar.inLine = [] :=
    List.dropWhile_eq_nil_iff.2 (inLine_of_clean clean)
  obtain ⟨c, cs, parts⟩ := List.exists_cons_of_ne_nil nonempty
  subst parts
  have passed := inLine_of_clean clean c List.mem_cons_self
  rw [List.dropWhile_cons_of_pos passed] at left
  have opened : Grammar.openLine.rest? (c :: cs) = some [] := by
    have total : Pattern.passMost Grammar.inLine some cs = some (cs.dropWhile Grammar.inLine) :=
      Pattern.passMost_of_total (fun _ => rfl) cs
    rw [left] at total
    simpa [Grammar.openLine, Pattern.rest?, Pattern.attempt, passed] using total
  rw [Grammar.afterLine?, rest?_endedLine, List.dropWhile_cons_of_pos passed, left, opened]
  rfl

/-- The lines are what the pattern matches from left to right. -/
theorem allLines_eq (t : Text) : Grammar.allLines t = lines t := by
  induction t using lineInduction with
  | last a clean =>
      by_cases empty : a = []
      · subst empty
        rw [Grammar.allLines, Pattern.findAll]
        rfl
      · have found := afterLine?_of_no_feed clean empty
        rw [← List.append_nil a] at found
        rw [lines_of_no_feed clean empty, Grammar.allLines, ← List.append_nil a,
          Pattern.findAll_append found empty, Pattern.findAll, List.append_nil]
  | line a rest clean ih =>
      have found := afterLine?_append_feed clean rest
      rw [List.append_cons] at found
      have some_taken : a ++ ['\n'] ≠ [] := by simp
      rw [lines_append_feed clean, ← ih, Grammar.allLines, List.append_cons,
        Pattern.findAll_append found some_taken]
      rfl

theorem firstLine?_eq (t : Text) : Grammar.firstLine? t = (lines t).head? := by
  induction t using lineInduction with
  | last a clean =>
      by_cases empty : a = []
      · subst empty
        rfl
      · rw [Grammar.firstLine?, afterLine?_of_no_feed clean empty, lines_of_no_feed clean empty]
        simp
  | line a rest clean _ =>
      rw [Grammar.firstLine?, afterLine?_append_feed clean, lines_append_feed clean,
        List.append_cons]
      exact congrArg some (Pattern.take_matched (a ++ ['\n']) rest)

theorem lineAt_eq (t : Text) (position : Int) :
    lineAt t position = Grammar.firstLine? (t.drop position.toNat) :=
  (firstLine?_eq _).symm

/-! ## Pieces of a text -/

theorem areLines_nil : AreLines [] [] :=
  ⟨rfl, List.not_mem_nil, List.forall_mem_nil _, List.forall_mem_nil _⟩

theorem areLines_of_no_feed
    (clean : '\n' ∉ a)
    (nonempty : a ≠ []) :
    AreLines [a] a where
  whole := List.flatten_singleton
  nonempty := fun member => nonempty (List.mem_singleton.1 member).symm
  ended := List.forall_mem_nil _
  oneFeed := List.forall_mem_singleton.2 fun member => clean ((List.dropLast_prefix a).subset member)

theorem AreLines.cons
    {pieces : List Text}
    {rest : Text}
    (areLines : AreLines pieces rest)
    (clean : '\n' ∉ a) :
    AreLines ((a ++ ['\n']) :: pieces) (a ++ '\n' :: rest) where
  whole := by
    rw [List.flatten_cons, areLines.whole, List.append_assoc, List.singleton_append]
  nonempty := by
    intro member
    rcases List.mem_cons.1 member with first | later
    · simp at first
    · exact areLines.nonempty later
  ended := by
    intro piece member
    cases pieces with
    | nil => cases member
    | cons next others =>
        rw [List.dropLast_cons_of_ne_nil (List.cons_ne_nil next others)] at member
        rcases List.mem_cons.1 member with first | later
        · rw [first, List.getLast?_concat]
        · exact areLines.ended piece later
  oneFeed := by
    intro piece member
    rcases List.mem_cons.1 member with first | later
    · rwa [first, List.dropLast_concat]
    · exact areLines.oneFeed piece later

theorem areLines_lines (t : Text) : AreLines (lines t) t := by
  induction t using lineInduction with
  | last a clean =>
      by_cases empty : a = []
      · subst empty
        exact areLines_nil
      · rw [lines_of_no_feed clean empty]
        exact areLines_of_no_feed clean empty
  | line a rest clean ih =>
      rw [lines_append_feed clean]
      exact ih.cons clean

/-- The first of the lines of a text ends at its first line feed, or it is all there is. -/
theorem AreLines.first
    {piece : Text}
    {pieces : List Text}
    (areLines : AreLines (piece :: pieces) t) :
    ∃ a, '\n' ∉ a ∧
      (piece = a ++ ['\n'] ∧ AreLines pieces pieces.flatten ∨ piece = a ∧ a ≠ [] ∧ pieces = []) := by
  have some_left : piece ≠ [] := by
    intro empty
    apply areLines.nonempty
    rw [empty]
    exact List.mem_cons_self
  obtain ⟨a, c, parts⟩ : ∃ a c, piece = a ++ [c] :=
    ⟨_, _, (List.dropLast_concat_getLast some_left).symm⟩
  have clean : '\n' ∉ a := by
    have only := areLines.oneFeed piece List.mem_cons_self
    rwa [parts, List.dropLast_concat] at only
  by_cases feed : c = '\n'
  · refine ⟨a, clean, .inl ⟨feed ▸ parts, rfl, ?_, ?_, ?_⟩⟩
    · exact fun member => areLines.nonempty (List.mem_cons_of_mem _ member)
    · intro other member
      apply areLines.ended other
      cases pieces with
      | nil => cases member
      | cons next others =>
          rw [List.dropLast_cons_of_ne_nil (List.cons_ne_nil next others)]
          exact List.mem_cons_of_mem _ member
    · exact fun other member => areLines.oneFeed other (List.mem_cons_of_mem _ member)
  · refine ⟨piece, ?_, .inr ⟨rfl, some_left, ?_⟩⟩
    · rw [parts, List.mem_append, List.mem_singleton]
      exact fun either => either.elim clean fun same => feed same.symm
    · cases pieces with
      | nil => rfl
      | cons next others =>
          have ended := areLines.ended piece (by
            rw [List.dropLast_cons_of_ne_nil (List.cons_ne_nil next others)]
            exact List.mem_cons_self)
          rw [parts, List.getLast?_concat] at ended
          exact absurd (Option.some.inj ended) feed

/-- A text has no other lines than those it is cut into. -/
theorem areLines_iff {pieces : List Text} : AreLines pieces t ↔ pieces = lines t := by
  constructor
  · intro areLines
    induction pieces generalizing t with
    | nil =>
        rw [← areLines.whole]
        rfl
    | cons piece pieces ih =>
        obtain ⟨a, clean, ⟨ended, others⟩ | ⟨open_, nonempty, alone⟩⟩ := areLines.first
        · rw [← areLines.whole, List.flatten_cons, ended, List.append_assoc, List.singleton_append,
            lines_append_feed clean, ← ih others]
        · subst alone
          rw [← areLines.whole, List.flatten_singleton, open_, lines_of_no_feed clean nonempty]
  · intro same
    rw [same]
    exact areLines_lines t

/-! ## A line and what stands around it -/

/-- A text around a line: nothing or a line feed stands before it, and it reaches to the next line
feed or to the end. -/
structure Around (t line front a back : Text) : Prop where
  whole : t = front ++ (a ++ back)
  line : line = a ++ back.take 1
  clean : '\n' ∉ a
  fed : ∀ c ∈ front.getLast?, c = '\n'
  stops : ∀ c ∈ back.head?, c = '\n'

theorem StandsAt.around
    {start : Nat}
    (stands : StandsAt t line start) :
    ∃ front a back, Around t line front a back ∧ start = front.length := by
  obtain ⟨before, after, parts, place⟩ := stands
  induction t using lineInduction generalizing before start with
  | last a clean =>
      by_cases empty : a = []
      · subst empty
        exact absurd parts (by simp [lines])
      · rw [lines_of_no_feed clean empty] at parts
        cases before with
        | nil =>
            obtain ⟨same, _⟩ := List.cons.inj parts
            refine ⟨[], a, [], ⟨by simp, ?_, clean, ?_, ?_⟩, place⟩
            · rw [← same, List.take_nil, List.append_nil]
            · intro c last
              cases last
            · intro c first
              cases first
        | cons first before => exact absurd parts (by simp)
  | line a rest clean ih =>
      rw [lines_append_feed clean] at parts
      cases before with
      | nil =>
          obtain ⟨same, _⟩ := List.cons.inj parts
          refine ⟨[], a, '\n' :: rest, ⟨rfl, same.symm, clean, ?_, ?_⟩, place⟩
          · intro c last
            cases last
          · intro c first
            exact (Option.some.inj first).symm
      | cons first before =>
          obtain ⟨same, others⟩ := List.cons.inj parts
          obtain ⟨front, inner, back, around, here⟩ := ih before others rfl
          refine ⟨a ++ '\n' :: front, inner, back,
            ⟨?_, around.line, around.clean, ?_, around.stops⟩, ?_⟩
          · rw [around.whole, List.append_assoc, List.cons_append]
          · intro c last
            rw [List.getLast?_append, List.getLast?_cons] at last
            cases found : front.getLast? with
            | none =>
                rw [found] at last
                exact (Option.some.inj last).symm
            | some d =>
                rw [found] at last
                exact Option.some.inj last ▸ around.fed d found
          · rw [place, List.flatten_cons, ← same, List.length_append, here]
            simp only [List.length_append, List.length_cons, List.length_nil]
            omega

/-! ## Scanning for the ends -/

/-- Looking back from a character of a line, nothing but the line is passed. -/
theorem lineStart_inside
    (fed : ∀ c ∈ front.getLast?, c = '\n')
    {passed : Text}
    {c : Char}
    (clean : '\n' ∉ passed ++ [c])
    (rest : Text) :
    lineStart (front ++ (passed ++ c :: rest)) (front.length + passed.length : Nat) =
      front.length := by
  have nonneg : ¬ ((front.length + passed.length : Nat) : Int) < 0 := by omega
  have before : (front ++ (passed ++ c :: rest)).take (front.length + passed.length + 1) =
      front ++ (passed ++ [c]) := by
    rw [List.append_cons, ← List.append_assoc, ← List.append_assoc]
    apply List.take_left'
    simp only [List.length_append, List.length_cons, List.length_nil]
  have line : ((front ++ (passed ++ [c])).reverse.takeWhile (· != '\n')).length =
      passed.length + 1 := by
    rw [List.reverse_append, takeWhile_append_of_ends]
    · simp
    · intro d member
      exact inLine_of_clean clean d (List.mem_reverse.1 member)
    · intro d first
      rw [List.head?_reverse] at first
      rw [fed d first]
      rfl
  rw [lineStart, if_neg nonneg, Int.toNat_natCast, before]
  simp only [line, List.length_append, List.length_cons, List.length_nil]
  exact Nat.add_sub_cancel _ _

/-- Looking on from a character of a line, the rest of the line is passed. -/
theorem lineEnd_inside
    {left : Text}
    (clean : '\n' ∉ left)
    (stops : ∀ c ∈ back.head?, c = '\n')
    (passed : Text) :
    lineEnd (passed ++ (left ++ back)) passed.length = passed.length + left.length - 1 := by
  have line : (left ++ back).takeWhile (· != '\n') = left := by
    apply takeWhile_append_of_ends (inLine_of_clean clean)
    intro c first
    rw [stops c first]
    rfl
  rw [lineEnd, Int.toNat_natCast, List.drop_left, line]

theorem lineStart_feed (passed rest : Text) :
    lineStart (passed ++ '\n' :: rest) passed.length = passed.length + 1 := by
  have nonneg : ¬ (passed.length : Int) < 0 := by omega
  have before : (passed ++ '\n' :: rest).take (passed.length + 1) = passed ++ ['\n'] := by
    rw [List.append_cons]
    apply List.take_left'
    rw [List.length_append, List.length_singleton]
  rw [lineStart, if_neg nonneg, Int.toNat_natCast, before]
  simp

theorem lineEnd_feed (passed rest : Text) :
    lineEnd (passed ++ '\n' :: rest) passed.length = passed.length - 1 := by
  have stops : ∀ c ∈ ('\n' :: rest).head?, c = '\n' := fun c first => (Option.some.inj first).symm
  have scanned : lineEnd (passed ++ ([] ++ '\n' :: rest)) passed.length =
      passed.length + ([] : Text).length - 1 :=
    lineEnd_inside List.not_mem_nil stops passed
  simpa using scanned

/-! ## Positions of a line -/

theorem exists_split_at
    {position : Nat}
    (inside : position < a.length) :
    ∃ passed c left, a = passed ++ c :: left ∧ passed.length = position := by
  refine ⟨a.take position, a[position], a.drop (position + 1), ?_, ?_⟩
  · rw [← List.drop_eq_getElem_cons, List.take_append_drop]
  · rw [List.length_take]
    exact Nat.min_eq_left (Nat.le_of_lt inside)

theorem scanned_at_feed
    {position : Nat}
    (feed : t[position]? = some '\n') :
    lineStart t position = position + 1 ∧ lineEnd t position = position - 1 := by
  obtain ⟨inside, _⟩ := List.getElem?_eq_some_iff.1 feed
  obtain ⟨passed, c, left, whole, here⟩ := exists_split_at inside
  have same : c = '\n' := by
    rw [whole, ← here, List.getElem?_append_right (Nat.le_refl _), Nat.sub_self] at feed
    exact Option.some.inj feed
  rw [whole, same, ← here]
  exact ⟨lineStart_feed passed left, lineEnd_feed passed left⟩

section Around

variable (around : Around t line front a back)

include around

theorem Around.withoutFeed_eq : withoutFeed line = a := by
  rw [withoutFeed, around.line]
  cases back with
  | nil =>
      rw [List.take_nil, List.append_nil, if_neg]
      exact fun ended => around.clean (List.mem_of_getLast? ended)
  | cons c rest =>
      have feed : c = '\n' := around.stops c rfl
      have ended : (a ++ (c :: rest).take 1).getLast? = some '\n' := by
        rw [feed]
        exact List.getLast?_concat
      rw [if_pos ended]
      exact List.dropLast_concat

theorem Around.scanned
    {position : Nat}
    (inside : position < a.length) :
    lineStart t (front.length + position : Nat) = front.length ∧
      lineEnd t (front.length + position : Nat) = front.length + a.length - 1 := by
  obtain ⟨passed, c, left, parts, here⟩ := exists_split_at inside
  have clean := around.clean
  rw [parts, List.append_cons, List.mem_append, not_or] at clean
  have rest : '\n' ∉ c :: left := by
    intro member
    exact around.clean (parts ▸ List.mem_append_right passed member)
  constructor
  · have started := lineStart_inside around.fed clean.1 (left ++ back)
    rw [around.whole, parts, List.append_assoc, List.cons_append, ← here]
    exact started
  · have ended := lineEnd_inside rest around.stops (front ++ passed)
    rw [List.length_append] at ended
    rw [around.whole, parts, ← here, List.append_assoc, ← List.append_assoc front, ended,
      List.length_append]
    omega

/-- What is left of a line at one of its positions is found there. -/
theorem Around.lineAt_inside
    {position : Nat}
    (inside : position < line.length) :
    lineAt t (front.length + position : Nat) = some (line.drop position) := by
  have place : t.drop (front.length + position) = (a ++ back).drop position := by
    rw [around.whole, ← List.drop_drop, List.drop_left]
  rw [around.line] at inside
  rw [lineAt, Int.toNat_natCast, place, around.line]
  cases back with
  | nil =>
      rw [List.take_nil, List.append_nil] at inside ⊢
      have clean : '\n' ∉ a.drop position := fun member =>
        around.clean (List.mem_of_mem_drop member)
      have some_left : a.drop position ≠ [] := by
        intro empty
        exact Nat.not_le_of_lt inside (List.drop_eq_nil_iff.1 empty)
      rw [lines_of_no_feed clean some_left]
      rfl
  | cons c rest =>
      have feed : c = '\n' := around.stops c rfl
      have upTo : position ≤ a.length := by
        rw [List.take_succ_cons, List.take_zero, List.length_append, List.length_singleton] at inside
        exact Nat.le_of_lt_succ inside
      have clean : '\n' ∉ a.drop position := fun member =>
        around.clean (List.mem_of_mem_drop member)
      rw [feed, List.drop_append_of_le_length upTo, lines_append_feed clean, List.take_succ_cons,
        List.take_zero, List.drop_append_of_le_length upTo]
      rfl

/-- A position of a line at which no line feed stands is before the end that the scanners find. -/
theorem Around.lt_length
    {position : Nat}
    (inside : position < line.length)
    (other : t[front.length + position]? ≠ some '\n') :
    position < a.length := by
  apply Classical.byContradiction
  intro beyond
  rw [around.line, List.length_append] at inside
  cases back with
  | nil =>
      rw [List.take_nil, List.length_nil] at inside
      exact beyond inside
  | cons c rest =>
      have feed : c = '\n' := around.stops c rfl
      have place : position = a.length := by
        rw [List.take_succ_cons, List.take_zero, List.length_singleton] at inside
        omega
      apply other
      rw [around.whole, place, ← List.append_assoc, ← List.length_append,
        List.getElem?_append_right (Nat.le_refl _), Nat.sub_self, feed]
      rfl

theorem Around.findsLine
    {position : Nat}
    (inside : position < a.length) :
    FindsLine t line (front.length + position) := by
  obtain ⟨start, stop⟩ := around.scanned inside
  have some_left : 0 < line.length := by
    rw [around.line, List.length_append]
    omega
  have upTo : ((front.length + a.length - 1 + 1 : Int)).toNat = front.length + a.length := by omega
  refine ⟨?_, ?_, ?_, ?_, ?_⟩
  · rw [start]
    exact Nat.le_add_right _ _
  · rw [stop]
    omega
  · have beginning : t.take (front.length + a.length) = front ++ a := by
      rw [around.whole, ← List.append_assoc]
      apply List.take_left'
      exact List.length_append
    rw [start, stop, upTo, beginning, List.drop_left, around.withoutFeed_eq]
  · rw [start]
    exact around.lineAt_inside some_left
  · intro other after before
    rw [start] at after
    rw [stop] at before
    obtain ⟨further, parts⟩ := Nat.exists_eq_add_of_le after
    have within : further < a.length := by omega
    obtain ⟨start', stop'⟩ := around.scanned within
    rw [start, stop, parts]
    exact ⟨start', stop'⟩

end Around

theorem exists_standsAt
    {position : Nat}
    (inside : position < t.length) :
    ∃ line start, StandsAt t line start ∧ start ≤ position ∧ position < start + line.length := by
  induction t using lineInduction generalizing position with
  | last a clean =>
      have nonempty : a ≠ [] := List.ne_nil_of_length_pos (Nat.zero_lt_of_lt inside)
      refine ⟨a, 0, ⟨[], [], lines_of_no_feed clean nonempty, rfl⟩, Nat.zero_le _, ?_⟩
      rwa [Nat.zero_add]
  | line a rest clean ih =>
      have here := lines_append_feed clean rest
      by_cases first : position < (a ++ ['\n']).length
      · refine ⟨a ++ ['\n'], 0, ⟨[], _, here, rfl⟩, Nat.zero_le _, ?_⟩
        rwa [Nat.zero_add]
      · obtain ⟨further, parts⟩ := Nat.exists_eq_add_of_le (Nat.not_lt.1 first)
        have later : further < rest.length := by
          simp only [List.length_append, List.length_cons, List.length_nil] at inside parts
          omega
        obtain ⟨line, start, ⟨before, after, found, place⟩, low, high⟩ := ih later
        refine ⟨line, (a ++ ['\n']).length + start,
          ⟨(a ++ ['\n']) :: before, after, ?_, ?_⟩, ?_, ?_⟩
        · rw [here, found, List.cons_append]
        · rw [place, List.flatten_cons]
          exact List.length_append.symm
        · omega
        · omega

theorem lineAt_length (t : Text) : lineAt t t.length = none := by
  rw [lineAt, Int.toNat_natCast, List.drop_length]
  rfl

/-- Every text has the lines it is cut into and no others, and they are what the pattern matches.  The
pattern finds at a position what is left of the line there, and nothing at the end.  From a character
of a line the scanners find the ends of this line, and so they do from every other of its characters;
from its line feed they find a start behind it and an end before it. -/
theorem scanners_find_lines (t : Text) :
    (∀ pieces, AreLines pieces t ↔ pieces = lines t) ∧
      Grammar.allLines t = lines t ∧
      (∀ position : Int, lineAt t position = Grammar.firstLine? (t.drop position.toNat)) ∧
      lineAt t t.length = none ∧
      ∀ position < t.length, ∃ line start,
        StandsAt t line start ∧ start ≤ position ∧ position < start + line.length ∧
        lineAt t position = some (line.drop (position - start)) ∧
        (t[position]? = some '\n' →
          lineStart t position = position + 1 ∧ lineEnd t position = position - 1) ∧
        (t[position]? ≠ some '\n' →
          lineStart t position = start ∧ FindsLine t line position) := by
  refine ⟨fun _ => areLines_iff, allLines_eq t, lineAt_eq t, lineAt_length t, ?_⟩
  intro position inside
  obtain ⟨line, start, stands, low, high⟩ := exists_standsAt inside
  obtain ⟨front, a, back, around, place⟩ := stands.around
  obtain ⟨further, parts⟩ := Nat.exists_eq_add_of_le low
  have within : further < line.length := by omega
  refine ⟨line, start, stands, low, high, ?_, ?_, ?_⟩
  · rw [parts, place, Nat.add_sub_cancel_left]
    exact around.lineAt_inside within
  · exact scanned_at_feed
  · intro other
    rw [parts, place] at other
    have plain := around.lt_length within other
    rw [parts, place]
    exact ⟨(around.scanned plain).1, around.findsLine plain⟩

end Stencil.Block
