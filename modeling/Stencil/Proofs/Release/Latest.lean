import Mathlib.Data.List.Forall2
import Stencil.Proofs.Release.Coding
import Stencil.Release.Latest

/-!
Only the latest release of a changelog is read, and all of it: its header and every line up to the
one that ends it, in order, and nothing of what is beyond.
-/
namespace Stencil.Release

open Text

variable {line change first : Text} {lines changed beyond others : List Text}

/-! ## Changes -/

theorem not_blank_star : isBlank '*' = false := by
  decide

/-- The asterisks of a bullet are all those at the start of its line. -/
theorem IsBullet.passed
    {bullet : Text}
    (isBullet : IsBullet bullet)
    (rest : Text) :
    ((bullet ++ rest).takeWhile (· == '*')).isEmpty = false ∧
      ∃ blanks, blanks ≠ [] ∧ (∀ c ∈ blanks, isBlank c) ∧
        (bullet ++ rest).dropWhile (· == '*') = blanks ++ rest := by
  cases isBullet with
  | @mk stars blanks someStars allStars someBlanks allBlank =>
      have starred : ∀ c ∈ stars, (c == '*') = true := by
        intro c member
        exact beq_iff_eq.2 (allStars c member)
      have stop : ∀ c ∈ (blanks ++ rest).head?, (c == '*') = false := by
        obtain ⟨blank, more, parts⟩ := List.exists_cons_of_ne_nil someBlanks
        have firstBlank : isBlank blank := allBlank blank (parts ▸ List.mem_cons_self)
        intro c first
        rw [parts] at first
        rw [Option.some.inj first] at firstBlank
        apply beq_eq_false_iff_ne.2
        intro same
        rw [same, not_blank_star] at firstBlank
        cases firstBlank
      have taken : (stars ++ (blanks ++ rest)).takeWhile (· == '*') = stars :=
        takeWhile_append_of_ends starred stop
      rw [List.append_assoc, ← drop_length_takeWhile, taken]
      exact ⟨List.isEmpty_eq_false_iff.2 someStars, blanks, someBlanks, allBlank, List.drop_left⟩

theorem changeOf_bullet
    {bullet : Text}
    (isBullet : IsBullet bullet)
    (ink : ∀ c ∈ change.head?, isBlank c = false) :
    changeOf (bullet ++ change) = change := by
  obtain ⟨starred, blanks, someBlanks, allBlank, left⟩ := isBullet.passed change
  have passed : (blanks ++ change).takeWhile isBlank = blanks :=
    takeWhile_append_of_ends allBlank ink
  have blank : blanks.isEmpty = false := List.isEmpty_eq_false_iff.2 someBlanks
  simp only [changeOf_eq_ite, starred, left, passed, blank, Bool.false_eq_true, if_false]
  rw [trimStart_append_left allBlank, trimStart_of_first ink]

/-- What begins with a bullet has blanks behind its asterisks. -/
theorem blank_behind_stars
    {bullet : Text}
    (isBullet : IsBullet bullet)
    (starts : bullet <+: line) :
    (line.takeWhile (· == '*')).isEmpty = false ∧
      ((line.dropWhile (· == '*')).takeWhile isBlank).isEmpty = false := by
  obtain ⟨rest, parts⟩ := starts
  obtain ⟨starred, blanks, someBlanks, allBlank, left⟩ := isBullet.passed rest
  rw [← parts, left]
  refine ⟨starred, ?_⟩
  rw [List.takeWhile_append_of_pos allBlank]
  exact List.isEmpty_eq_false_iff.2 (List.append_ne_nil_of_left_ne_nil someBlanks _)

theorem exists_bullet
    (starred : ¬ (line.takeWhile (· == '*')).isEmpty = true)
    (blank : ¬ ((line.dropWhile (· == '*')).takeWhile isBlank).isEmpty = true) :
    ∃ bullet, IsBullet bullet ∧ bullet ++ trimStart (line.dropWhile (· == '*')) = line := by
  have isBullet : IsBullet (line.takeWhile (· == '*') ++
      (line.dropWhile (· == '*')).takeWhile isBlank) := by
    apply IsBullet.mk
    · exact fun empty => starred (List.isEmpty_iff.2 empty)
    · intro c member
      have star : (c == '*') = true := List.mem_takeWhile_imp (p := (· == '*')) member
      exact beq_iff_eq.1 star
    · exact fun empty => blank (List.isEmpty_iff.2 empty)
    · intro c member
      exact List.mem_takeWhile_imp member
  refine ⟨_, isBullet, ?_⟩
  rw [List.append_assoc, trimStart, List.takeWhile_append_dropWhile,
    List.takeWhile_append_dropWhile]

/-- Every line tells a change. -/
theorem tells_changeOf (line : Text) : Tells line (changeOf line) := by
  rw [changeOf_eq_ite]
  split
  · next bare =>
      apply Tells.plain
      intro bullet isBullet starts
      rw [(blank_behind_stars isBullet starts).1] at bare
      cases bare
  · next starred =>
      split
      · next bare =>
          apply Tells.plain
          intro bullet isBullet starts
          rw [(blank_behind_stars isBullet starts).2] at bare
          cases bare
      · next blank =>
          obtain ⟨bullet, isBullet, parts⟩ := exists_bullet starred blank
          have tells := Tells.bulleted isBullet (head?_trimStart (line.dropWhile (· == '*')))
          rwa [parts] at tells

/-- No line tells two changes. -/
theorem Tells.eq_changeOf (tells : Tells line change) : change = changeOf line := by
  cases tells with
  | bulleted isBullet ink => exact (changeOf_bullet isBullet ink).symm
  | plain bare =>
      have told := tells_changeOf line
      generalize changeOf line = other at told
      cases told with
      | bulleted isBullet _ => exact absurd (List.prefix_append _ _) (bare _ isBullet)
      | plain _ => rfl

/-- What a line tells is what the pattern of changes finds in it. -/
theorem tells_iff : Tells line change ↔ changeMatch? line = some change := by
  rw [changeMatch?_eq, Option.some_inj]
  constructor
  · exact fun tells => tells.eq_changeOf.symm
  · intro same
    rw [← same]
    exact tells_changeOf line

/-! ## The lines of a release -/

theorem endsChanges_iff : endsChanges line ↔ EndsRelease line := by
  rw [endsChanges, Bool.or_eq_true, List.all_eq_true, Header.isSome_read?, EndsRelease]

theorem IsLatest.changes_eq
    (latest : IsLatest lines first changed beyond) :
    ∃ h, Header.read? first = some h ∧
      Notes.ofLines lines = ⟨h.version, h.tag, changed.map changeOf⟩ := by
  obtain ⟨h, found⟩ := Option.isSome_iff_exists.1 (Header.isSome_read?.2 latest.first)
  have taken : (changed ++ beyond).takeWhile (fun line => !endsChanges line) = changed := by
    apply takeWhile_append_of_ends
    · intro line member
      rw [Bool.not_eq_true', Bool.eq_false_iff]
      exact fun ends => latest.going line member (endsChanges_iff.1 ends)
    · intro line isFirst
      rw [Bool.not_eq_false']
      exact endsChanges_iff.2 (latest.stops line isFirst)
  refine ⟨h, found, ?_⟩
  rw [latest.whole, Notes.ofLines, found]
  simp only [taken]

theorem exists_isLatest
    (header : IsHeader first)
    (others : List Text) :
    ∃ changed beyond, IsLatest (first :: others) first changed beyond := by
  refine ⟨others.takeWhile fun line => !endsChanges line,
    others.dropWhile fun line => !endsChanges line, ⟨?_, header, ?_, ?_⟩⟩
  · rw [List.takeWhile_append_dropWhile]
  · intro line member ends
    have going := List.mem_takeWhile_imp member
    rw [endsChanges_iff.2 ends] at going
    cases going
  · intro line isFirst
    have stopped := List.head?_dropWhile_not (fun line => !endsChanges line) others
    rw [isFirst] at stopped
    apply endsChanges_iff.1
    simpa using stopped

theorem not_isHeader_nil : ¬ IsHeader [] := by
  intro header
  obtain ⟨blanks, digit, rest, parts, _⟩ := header
  cases parts

/-- A changelog that does not begin with a header has no release.  From any other one the notes take
its header and, in order, what each line of its latest release tells; every changelog with this
latest release is read alike, whatever is beyond. -/
theorem latest_release_read (lines : List Text) :
    ((∀ line ∈ lines.head?, line = [] ∨ ¬ IsHeader line) →
      Notes.ofLines lines = .unreleased) ∧
    (∀ first ∈ lines.head?, IsHeader first →
      ∃ changed beyond, IsLatest lines first changed beyond) ∧
    ∀ first changed beyond, IsLatest lines first changed beyond →
      Header.read? first = some ⟨(Notes.ofLines lines).version, (Notes.ofLines lines).tag⟩ ∧
      List.Forall₂ Tells changed (Notes.ofLines lines).changes ∧
      ∀ others otherBeyond, IsLatest others first changed otherBeyond →
        Notes.ofLines others = Notes.ofLines lines := by
  refine ⟨?_, ?_, ?_⟩
  · intro plain
    apply ofLines_of_no_header
    intro line isFirst header
    cases plain line isFirst with
    | inl empty =>
        rw [empty] at header
        exact not_isHeader_nil header
    | inr other => exact other header
  · intro first isFirst header
    obtain ⟨others, parts⟩ := List.head?_eq_some_iff.1 isFirst
    rw [parts]
    exact exists_isLatest header others
  · intro first changed beyond latest
    obtain ⟨h, found, read⟩ := latest.changes_eq
    rw [read]
    refine ⟨found, ?_, ?_⟩
    · rw [List.forall₂_map_right_iff, List.forall₂_same]
      intro line _
      exact tells_iff.2 (changeMatch?_eq line)
    · intro others otherBeyond other
      obtain ⟨otherHeader, otherFound, otherRead⟩ := other.changes_eq
      rw [found] at otherFound
      rw [otherRead, ← Option.some.inj otherFound]

/-- Headers of another level, bare asterisks and line ends are parts of changes, and an older release
is not. -/
theorem latest_release_read_older :
    let first : Text := "## 2.0-rc (soon)".toList
    let changed : List Text :=
      ["### fixed".toList, "**".toList, "**\t two\n".toList, "* ## 1.9".toList]
    let beyond : List Text := [" \r\n".toList, "## 1.9".toList, "* old".toList]
    let told : List Text := ["### fixed".toList, "**".toList, "two\n".toList, "## 1.9".toList]
    IsLatest (first :: (changed ++ beyond)) first changed beyond ∧
      List.Forall₂ Tells changed told ∧
      Notes.ofLines (first :: (changed ++ beyond)) = ⟨"2.0".toList, some "rc".toList, told⟩ ∧
      Notes.ofLines (first :: changed) = ⟨"2.0".toList, some "rc".toList, told⟩ ∧
      Notes.ofLines beyond = .unreleased := by
  intro first changed beyond told
  have header : IsHeader first := Header.isSome_read?.1 (by decide)
  have going : ∀ line ∈ changed, ¬ EndsRelease line := by
    intro line member ends
    have ongoing : ∀ line ∈ changed, endsChanges line = false := by decide
    rw [← endsChanges_iff, ongoing line member] at ends
    cases ends
  have latest : IsLatest (first :: (changed ++ beyond)) first changed beyond := by
    refine ⟨rfl, header, going, ?_⟩
    intro line isFirst
    rw [← Option.some.inj isFirst, ← endsChanges_iff]
    decide
  have alone : IsLatest (first :: changed) first changed [] := by
    refine ⟨?_, header, going, ?_⟩
    · rw [List.append_nil]
    · intro line isFirst
      cases isFirst
  have whole : Notes.ofLines (first :: (changed ++ beyond)) =
      ⟨"2.0".toList, some "rc".toList, told⟩ := by
    decide
  obtain ⟨_, tells, others⟩ :=
    (latest_release_read (first :: (changed ++ beyond))).2.2 first changed beyond latest
  rw [whole] at tells others
  refine ⟨latest, tells, whole, others (first :: changed) [] alone, ?_⟩
  apply (latest_release_read beyond).1
  intro line isFirst
  right
  rw [← Option.some.inj isFirst, ← Header.isSome_read?]
  decide

end Stencil.Release
