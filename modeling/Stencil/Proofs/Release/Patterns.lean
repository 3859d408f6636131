import Stencil.Proofs.Release.Headers
import Stencil.Proofs.Text.Pattern
import Stencil.Release.Grammar

/-!
Changelog lines by patterns.  Whatever follows a version or a bullet matches, so a part that may be
missing is there when it can be, no repetition gives a character back, and the patterns read a line
like the direct readers.
-/
namespace Stencil.Release

open Text Pattern

variable {β : Type} {inClass : Char → Bool} {goOn : Text → Groups → Option β} {groups : Groups}

theorem drop_length_takeWhile (inClass : Char → Bool) (t : Text) :
    t.drop (t.takeWhile inClass).length = t.dropWhile inClass := by
  induction t with
  | nil => rfl
  | cons c cs ih => by_cases passed : inClass c <;> simp [passed, ih]

theorem takeWhile_append_starts
    {a t : Text}
    (starts : a <+: t.dropWhile inClass) :
    t.takeWhile inClass ++ a <+: t := by
  obtain ⟨rest, parts⟩ := starts
  exact ⟨rest, by rw [List.append_assoc, parts, List.takeWhile_append_dropWhile]⟩

/-! ## Parts -/

theorem attempt_sign (c : Char) (t : Text) :
    (Grammar.sign c).attempt goOn t groups =
      if t.head? = some c then goOn t.tail groups else none := by
  cases t with
  | nil => rfl
  | cons d cs => simp [Grammar.sign, attempt]

theorem attempt_atLeastOne
    (greedy : ∀ t, passMost inClass (goOn · groups) t = goOn (t.dropWhile inClass) groups)
    (t : Text) :
    (Grammar.atLeastOne inClass).attempt goOn t groups =
      if (t.takeWhile inClass).isEmpty then none else goOn (t.dropWhile inClass) groups := by
  cases t with
  | nil => rfl
  | cons c cs =>
      by_cases passed : inClass c
      · simp [Grammar.atLeastOne, attempt, passed, greedy]
      · simp [Grammar.atLeastOne, attempt, passed]

/-- After characters of a class, the rest matches from any place. -/
theorem attempt_atLeastOne_of_total
    (total : Total goOn)
    (t : Text) :
    (Grammar.atLeastOne inClass).attempt goOn t groups =
      if (t.takeWhile inClass).isEmpty then none else goOn (t.dropWhile inClass) groups :=
  attempt_atLeastOne (fun t => passMost_of_total (total · groups) t) t

/-! ## Versions -/

theorem moreNumbers_dot (count : Nat) (cs : Text) :
    Header.moreNumbers (count + 1) ('.' :: cs) =
      if (cs.takeWhile isDigit).isEmpty then []
      else '.' :: (cs.takeWhile isDigit ++ Header.moreNumbers count (cs.dropWhile isDigit)) := by
  simp only [Header.moreNumbers, drop_length_takeWhile]
  rfl

theorem moreNumbers_of_head?_ne
    {t : Text}
    (other : t.head? ≠ some '.')
    (count : Nat) :
    Header.moreNumbers count t = [] := by
  unfold Header.moreNumbers
  split
  · exact absurd rfl other
  · rfl

theorem moreNumbers_starts (count : Nat) (t : Text) : Header.moreNumbers count t <+: t := by
  induction count generalizing t with
  | zero => exact List.nil_prefix
  | succ count ih =>
      by_cases dot : t.head? = some '.'
      · obtain ⟨cs, rfl⟩ := List.head?_eq_some_iff.1 dot
        rw [moreNumbers_dot]
        split
        · exact List.nil_prefix
        · rw [List.cons_prefix_cons]
          exact ⟨rfl, takeWhile_append_starts (ih _)⟩
      · rw [moreNumbers_of_head?_ne dot]
        exact List.nil_prefix

theorem versionOf?_starts
    {t version : Text}
    (found : Header.versionOf? t = some version) :
    version <+: t := by
  rw [Header.versionOf?] at found
  simp only [drop_length_takeWhile] at found
  split at found
  · cases found
  · obtain rfl := Option.some.inj found
    exact takeWhile_append_starts (moreNumbers_starts 2 _)

/-- What passes digits and then more numbers. -/
def PassesNumbers (count : Nat) (p : Pattern) (goOn : Text → Groups → Option β)
    (groups : Groups) : Prop :=
  ∀ t, p.attempt goOn t groups =
    if (t.takeWhile isDigit).isEmpty then none
    else goOn ((t.dropWhile isDigit).drop
      (Header.moreNumbers count (t.dropWhile isDigit)).length) groups

/-- Numbers behind full stops are passed when they are there, and they are never given back. -/
theorem attempt_moreNumbers
    {p : Pattern}
    {count : Nat}
    (total : Total goOn)
    (numbers : PassesNumbers count p goOn groups)
    (t : Text) :
    (maybe (both (Grammar.sign '.') p)).attempt goOn t groups =
      goOn (t.drop (Header.moreNumbers (count + 1) t).length) groups := by
  rw [attempt, attempt, attempt_sign]
  by_cases dot : t.head? = some '.'
  · obtain ⟨cs, rfl⟩ := List.head?_eq_some_iff.1 dot
    rw [if_pos dot, List.tail_cons, numbers, moreNumbers_dot]
    split
    · rfl
    · obtain ⟨result, reached⟩ := Option.isSome_iff_exists.1 (total
        ((cs.dropWhile isDigit).drop
          (Header.moreNumbers count (cs.dropWhile isDigit)).length) groups)
      rw [reached, Option.some_or, ← reached, List.length_cons, List.drop_succ_cons,
        List.length_append, ← List.drop_drop, drop_length_takeWhile]
  · rw [if_neg dot, moreNumbers_of_head?_ne dot]
    rfl

theorem passesNumbers_zero (total : Total goOn) :
    PassesNumbers 0 (Grammar.atLeastOne isDigit) goOn groups :=
  attempt_atLeastOne_of_total total

theorem passesNumbers_succ
    {p : Pattern}
    {count : Nat}
    (total : Total goOn)
    (numbers : PassesNumbers count p goOn groups) :
    PassesNumbers (count + 1)
      (both (Grammar.atLeastOne isDigit) (maybe (both (Grammar.sign '.') p))) goOn groups := by
  intro t
  rw [attempt, attempt_atLeastOne_of_total (total_maybe total), attempt_moreNumbers total numbers]

theorem attempt_version
    (total : Total goOn)
    (t : Text) :
    Grammar.version.attempt goOn t groups =
      (Header.versionOf? t).bind fun version => goOn (t.drop version.length) groups := by
  have numbers : PassesNumbers 2 Grammar.version goOn groups :=
    passesNumbers_succ total (passesNumbers_succ total (passesNumbers_zero total))
  rw [numbers, Header.versionOf?]
  simp only [drop_length_takeWhile]
  split
  · rfl
  · rw [Option.bind_some, List.length_append, ← List.drop_drop, drop_length_takeWhile]

/-! ## Tags -/

theorem tagOf?_hyphen (cs : Text) :
    Header.tagOf? ('-' :: cs) =
      if (cs.takeWhile fun c => !isBlank c).isEmpty then none
      else some (cs.takeWhile fun c => !isBlank c) :=
  rfl

theorem tagOf?_of_head?_ne
    {t : Text}
    (other : t.head? ≠ some '-') :
    Header.tagOf? t = none := by
  unfold Header.tagOf?
  split
  · exact absurd rfl other
  · rfl

theorem attempt_tag
    (total : Total goOn)
    (t : Text) :
    (maybe Grammar.tag).attempt goOn t groups =
      match Header.tagOf? t with
      | some tag => goOn (t.drop (tag.length + 1)) (groups.put Grammar.tagGroup tag)
      | none => goOn t groups := by
  rw [attempt, Grammar.tag, attempt, attempt_sign]
  by_cases hyphen : t.head? = some '-'
  · obtain ⟨cs, rfl⟩ := List.head?_eq_some_iff.1 hyphen
    rw [if_pos hyphen, List.tail_cons, attempt,
      attempt_atLeastOne_of_total fun rest groups => total rest _, tagOf?_hyphen]
    split
    · rfl
    · rw [← drop_length_takeWhile, take_passed (List.takeWhile_prefix _)]
      exact Option.or_of_isSome (total _ _)
  · rw [if_neg hyphen, tagOf?_of_head?_ne hyphen]
    rfl

/-! ## Lines -/

theorem attempt_anything (t : Text) (groups : Groups) :
    Grammar.anything.attempt finish t groups = some groups := by
  unfold finish
  rw [Grammar.anything, attempt, passMost_to_end, if_pos]
  exact List.all_eq_true.2 fun _ _ => rfl

theorem total_anything : Total (Grammar.anything.attempt finish) := fun rest groups => by
  rw [attempt_anything]
  rfl

/-- The groups of a header line. -/
def Header.captured (h : Header) : Groups :=
  match h.tag with
  | some tag => [(Grammar.versionGroup, h.version), (Grammar.tagGroup, tag)]
  | none => [(Grammar.versionGroup, h.version)]

theorem attempt_group_version
    (total : Total goOn)
    (t : Text) :
    (group Grammar.versionGroup Grammar.version).attempt goOn t groups =
      (Header.versionOf? t).bind fun version =>
        goOn (t.drop version.length) (groups.put Grammar.versionGroup version) := by
  rw [attempt, attempt_version fun rest groups => total rest _]
  cases found : Header.versionOf? t with
  | none => rfl
  | some version => rw [Option.bind_some, Option.bind_some, take_passed (versionOf?_starts found)]

theorem read?_signs (rest : Text) :
    Header.read? ('#' :: '#' :: rest) =
      if (rest.takeWhile isBlank).isEmpty then none
      else (Header.versionOf? (rest.dropWhile isBlank)).map fun version =>
        ⟨version, Header.tagOf? ((rest.dropWhile isBlank).drop version.length)⟩ := by
  cases rest with
  | nil => rfl
  | cons c cs =>
      by_cases blank : isBlank c
      · simp [Header.read?, blank, trimStart]
      · simp [Header.read?, blank]

theorem read?_of_no_signs
    {line : Text}
    (other : ∀ rest, line ≠ '#' :: '#' :: rest) :
    Header.read? line = none := by
  unfold Header.read?
  split
  · exact absurd rfl (other _)
  · rfl

/-- A version does not begin with a blank character. -/
theorem versionOf?_cons_of_blank
    {c : Char}
    (blank : isBlank c)
    (cs : Text) :
    Header.versionOf? (c :: cs) = none := by
  have plain : isDigit c = false := by
    rw [Bool.eq_false_iff]
    intro digit
    rw [isBlank_of_isDigit digit] at blank
    cases blank
  simp [Header.versionOf?, plain]

theorem attempt_versionAndTag (t : Text) :
    (both (group Grammar.versionGroup Grammar.version)
      (both (maybe Grammar.tag) Grammar.anything)).attempt finish t [] =
      (Header.versionOf? t).map fun version =>
        Header.captured ⟨version, Header.tagOf? (t.drop version.length)⟩ := by
  have total : Total ((both (maybe Grammar.tag) Grammar.anything).attempt finish) :=
    total_maybe total_anything
  rw [attempt, attempt_group_version total]
  cases Header.versionOf? t with
  | none => rfl
  | some version =>
      rw [Option.bind_some, attempt, attempt_tag total_anything, Option.map_some, Header.captured]
      cases Header.tagOf? (t.drop version.length) with
      | none => exact attempt_anything _ _
      | some tag => exact attempt_anything _ _

theorem header_fullMatch? (line : Text) :
    Grammar.header.fullMatch? line = (Header.read? line).map Header.captured := by
  change Grammar.header.attempt finish line [] = _
  rw [Grammar.header, attempt, attempt_sign, attempt, attempt_sign]
  by_cases signs : ∃ rest, line = '#' :: '#' :: rest
  · obtain ⟨rest, rfl⟩ := signs
    simp only [List.head?_cons, List.tail_cons, if_true]
    rw [attempt, attempt_atLeastOne, read?_signs, attempt_versionAndTag]
    · split
      · rfl
      · rw [Option.map_map]
        rfl
    · -- A blank character cannot be given back, since no version begins with one.
      refine passMost_eq_of_apart fun c cs blank => ?_
      rw [attempt_versionAndTag, versionOf?_cons_of_blank blank]
      rfl
  · rw [read?_of_no_signs fun rest same => signs ⟨rest, same⟩]
    split
    · next first =>
        obtain ⟨cs, rfl⟩ := List.head?_eq_some_iff.1 first
        split
        · next second =>
            obtain ⟨rest, same⟩ := List.head?_eq_some_iff.1 second
            exact absurd ⟨rest, congrArg ('#' :: ·) same⟩ signs
        · rfl
    · rfl

theorem isTag_of_tagOf?
    {t tag : Text}
    (found : Header.tagOf? t = some tag) :
    IsTag tag := by
  unfold Header.tagOf? at found
  split at found
  · next cs =>
      simp only at found
      split at found
      · cases found
      · next nonempty =>
          obtain rfl := Option.some.inj found
          refine ⟨fun empty => nonempty (List.isEmpty_iff.2 empty), fun c member => ?_⟩
          simpa using List.mem_takeWhile_imp member
  · cases found

theorem isTag_of_read?
    {line : Text}
    {h : Header}
    (found : Header.read? line = some h) :
    ∀ tag ∈ h.tag, IsTag tag := by
  unfold Header.read? at found
  split at found
  · split at found
    · obtain ⟨version, -, rfl⟩ := Option.map_eq_some_iff.1 found
      exact fun tag member => isTag_of_tagOf? member
    · cases found
  · cases found

/-- The pattern of header lines reads them like the direct reader. -/
theorem Header.match?_eq_read? (line : Text) : Header.match? line = Header.read? line := by
  rw [Header.match?, header_fullMatch?, Option.map_map]
  cases found : Header.read? line with
  | none => rfl
  | some h =>
      obtain ⟨version, tag⟩ := h
      cases tag with
      | none => rfl
      | some tag =>
          have kept : (some tag).filter (fun tag => !tag.all isBlank) = some tag := by
            simp [(isTag_of_read? found tag rfl).not_all_blank]
          exact congrArg (fun tag => some (Header.mk version tag)) kept

/-! ## Changes -/

theorem attempt_entry (t : Text) (groups : Groups) :
    (group Grammar.entryGroup Grammar.anything).attempt finish t groups =
      some (groups.put Grammar.entryGroup t) := by
  rw [attempt, Grammar.anything, attempt,
    passMost_eq_of_apart fun c rest _ => if_neg (List.cons_ne_nil c rest)]
  have all : t.dropWhile (fun _ => true) = [] := List.dropWhile_eq_nil_iff.2 fun _ _ => rfl
  rw [all, finish, if_pos rfl, List.length_nil, Nat.sub_zero, List.take_length]

theorem total_entry : Total ((group Grammar.entryGroup Grammar.anything).attempt finish) :=
  fun rest groups => by
    rw [attempt_entry]
    rfl

theorem attempt_bullet (line : Text) :
    (both (Grammar.atLeastOne (· == '*')) (Grammar.atLeastOne isBlank)).attempt
        ((group Grammar.entryGroup Grammar.anything).attempt finish) line [] =
      if (line.takeWhile (· == '*')).isEmpty then none
      else if ((line.dropWhile (· == '*')).takeWhile isBlank).isEmpty then none
      else some [(Grammar.entryGroup, trimStart (line.dropWhile (· == '*')))] := by
  rw [attempt, attempt_atLeastOne, attempt_atLeastOne_of_total total_entry, attempt_entry]
  · rfl
  · -- An asterisk cannot be given back, since it is not blank.
    refine passMost_eq_of_apart fun c cs star => ?_
    rw [beq_iff_eq.1 star, attempt_atLeastOne_of_total total_entry, if_pos]
    have ink : isBlank '*' = false := by decide
    simp [ink]

theorem change_fullMatch? (line : Text) :
    Grammar.change.fullMatch? line =
      ((both (Grammar.atLeastOne (· == '*')) (Grammar.atLeastOne isBlank)).attempt
        ((group Grammar.entryGroup Grammar.anything).attempt finish) line []).or
        (some [(Grammar.entryGroup, line)]) :=
  congrArg (Option.or _) (attempt_entry line [])

theorem changeOf_eq_ite (line : Text) :
    changeOf line =
      if (line.takeWhile (· == '*')).isEmpty then line
      else if ((line.dropWhile (· == '*')).takeWhile isBlank).isEmpty then line
      else trimStart (line.dropWhile (· == '*')) := by
  rw [changeOf]
  simp only [drop_length_takeWhile]
  cases line.dropWhile (· == '*') with
  | nil => simp
  | cons c cs =>
      by_cases blank : isBlank c
      · cases (line.takeWhile (· == '*')).isEmpty <;> simp [blank]
      · simp [blank]

/-- The pattern of changes drops a bullet like the direct reader. -/
theorem changeMatch?_eq (line : Text) : changeMatch? line = some (changeOf line) := by
  rw [changeMatch?, change_fullMatch?, attempt_bullet, changeOf_eq_ite]
  split
  · rfl
  · split <;> rfl

end Stencil.Release
