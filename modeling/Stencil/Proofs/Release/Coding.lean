import Stencil.Proofs.Release.Patterns
import Stencil.Proofs.Release.RoundTrip

/-!
The package version as a code.  What a header line gives is a version and a tag that can be told
apart when they are written one behind the other, so the package version gives both of them back.
-/
namespace Stencil.Release

open Text

/-! ## What a header line gives -/

theorem isNumber_takeWhile
    {t : Text}
    (digits : (t.takeWhile isDigit).isEmpty = false) :
    IsNumber (t.takeWhile isDigit) := by
  rw [List.isEmpty_eq_false_iff] at digits
  exact ⟨digits, fun c member => List.mem_takeWhile_imp member⟩

theorem exists_numbers (count : Nat) (t : Text) :
    ∃ others : List Text, Header.moreNumbers count t = others.flatMap ('.' :: ·) ∧
      others.length ≤ count ∧ ∀ number ∈ others, IsNumber number := by
  induction count generalizing t with
  | zero => exact ⟨[], rfl, Nat.le_refl 0, List.forall_mem_nil _⟩
  | succ count ih =>
      have none_more : ∃ others : List Text, [] = others.flatMap ('.' :: ·) ∧
          others.length ≤ count + 1 ∧ ∀ number ∈ others, IsNumber number :=
        ⟨[], rfl, Nat.zero_le _, List.forall_mem_nil _⟩
      by_cases dot : t.head? = some '.'
      · obtain ⟨cs, rfl⟩ := List.head?_eq_some_iff.1 dot
        rw [moreNumbers_dot]
        cases empty : (cs.takeWhile isDigit).isEmpty with
        | true => exact none_more
        | false =>
            obtain ⟨others, written, few, numbers⟩ := ih (cs.dropWhile isDigit)
            refine ⟨cs.takeWhile isDigit :: others, ?_, Nat.succ_le_succ few, ?_⟩
            · rw [List.flatMap_cons, written]
              rfl
            · exact List.forall_mem_cons.2 ⟨isNumber_takeWhile empty, numbers⟩
      · rw [moreNumbers_of_head?_ne dot]
        exact none_more

theorem isVersion_of_versionOf?
    {t version : Text}
    (found : Header.versionOf? t = some version) :
    IsVersion version := by
  simp only [Header.versionOf?] at found
  cases empty : (t.takeWhile isDigit).isEmpty with
  | true =>
      rw [if_pos empty] at found
      cases found
  | false =>
      rw [empty, if_neg Bool.false_ne_true] at found
      obtain rfl := Option.some.inj found
      obtain ⟨others, written, few, numbers⟩ :=
        exists_numbers 2 (t.drop (t.takeWhile isDigit).length)
      refine ⟨t.takeWhile isDigit, others, ?_, few, ?_⟩
      · rw [Header.intercalate_eq_flatMap, written]
      · exact List.forall_mem_cons.2 ⟨isNumber_takeWhile empty, numbers⟩

theorem tagMark_starts (t : Text) : tagMark (Header.tagOf? t) <+: t := by
  by_cases hyphen : t.head? = some '-'
  · obtain ⟨cs, rfl⟩ := List.head?_eq_some_iff.1 hyphen
    rw [tagOf?_hyphen]
    split
    · exact List.nil_prefix
    · exact List.cons_prefix_cons.2 ⟨rfl, List.takeWhile_prefix _⟩
  · rw [tagOf?_of_head?_ne hyphen]
    exact List.nil_prefix

/-- Where the version and the tag of a header line come from. -/
theorem read?_eq_some
    {line : Text}
    {h : Header}
    (found : Header.read? line = some h) :
    ∃ blanks t, line = "##".toList ++ blanks ++ t ∧ (∀ c ∈ blanks, isBlank c) ∧
      Header.versionOf? t = some h.version ∧ h.tag = Header.tagOf? (t.drop h.version.length) := by
  unfold Header.read? at found
  split at found
  · next c cs =>
      split at found
      · next blank =>
          obtain ⟨version, isVersion, rfl⟩ := Option.map_eq_some_iff.1 found
          obtain ⟨blanks, parts, allBlank⟩ := exists_trimStart cs
          refine ⟨c :: blanks, trimStart cs, ?_, ?_, isVersion, rfl⟩
          · exact congrArg (fun cs => '#' :: '#' :: c :: cs) parts
          · exact List.forall_mem_cons.2 ⟨blank, allBlank⟩
      · cases found
  · cases found

theorem isVersion_of_read?
    {line : Text}
    {h : Header}
    (found : Header.read? line = some h) :
    IsVersion h.version := by
  obtain ⟨_, _, _, _, isVersion, _⟩ := read?_eq_some found
  exact isVersion_of_versionOf? isVersion

/-- The version and the tag stand one behind the other in the header line. -/
theorem exists_line_of_read?
    {line : Text}
    {h : Header}
    (found : Header.read? line = some h) :
    ∃ blanks rest, line = "##".toList ++ blanks ++ (h.version ++ tagMark h.tag) ++ rest ∧
      ∀ c ∈ blanks, isBlank c := by
  obtain ⟨blanks, t, rfl, allBlank, isVersion, isTag⟩ := read?_eq_some found
  obtain ⟨afterVersion, rfl⟩ := versionOf?_starts isVersion
  rw [List.drop_left] at isTag
  obtain ⟨rest, rfl⟩ := isTag ▸ tagMark_starts afterVersion
  exact ⟨blanks, rest, by simp only [List.append_assoc], allBlank⟩

/-! ## What lines give -/

theorem ofLines_of_isHeader
    {first : Text}
    (header : IsHeader first)
    (others : List Text) :
    ∃ h changes, Header.read? first = some h ∧
      Notes.ofLines (first :: others) = ⟨h.version, h.tag, changes⟩ := by
  obtain ⟨h, found⟩ := Option.isSome_iff_exists.1 (Header.isSome_read?.2 header)
  exact ⟨h, _, found, by simp only [Notes.ofLines, found]; rfl⟩

theorem ofLines_of_no_header
    {lines : List Text}
    (plain : ∀ first ∈ lines.head?, ¬ IsHeader first) :
    Notes.ofLines lines = .unreleased := by
  cases lines with
  | nil => rfl
  | cons first others =>
      have unread : Header.read? first = none := by
        rw [← Option.not_isSome_iff_eq_none, Header.isSome_read?]
        exact plain first rfl
      simp only [Notes.ofLines, unread]

theorem unreleased_version : IsVersion Notes.unreleased.version :=
  ⟨['0'], [['0'], ['0']], by decide, by decide, by decide⟩

/-- Whatever the lines are, the notes have a version and, if any, a tag. -/
theorem parts_of_ofLines (lines : List Text) :
    IsVersion (Notes.ofLines lines).version ∧ ∀ tag ∈ (Notes.ofLines lines).tag, IsTag tag := by
  by_cases header : ∃ first ∈ lines.head?, IsHeader first
  · obtain ⟨first, isFirst, header⟩ := header
    obtain ⟨others, rfl⟩ := List.head?_eq_some_iff.1 isFirst
    obtain ⟨h, changes, found, read⟩ := ofLines_of_isHeader header others
    rw [read]
    exact ⟨isVersion_of_read? found, isTag_of_read? found⟩
  · rw [ofLines_of_no_header fun first isFirst isHeader => header ⟨first, isFirst, isHeader⟩]
    exact ⟨unreleased_version, fun tag none => nomatch none⟩

theorem ofLines_headerLine
    {version : Text}
    {tag : Option Text}
    (isVersion : IsVersion version)
    (isTag : ∀ t ∈ tag, IsTag t) :
    Notes.ofLines [headerLine version tag] = ⟨version, tag, []⟩ := by
  rw [Notes.ofLines, Header.read?_headerLine isVersion isTag]
  rfl

theorem ofLines_package_version (lines : List Text) :
    Notes.ofLines ["## ".toList ++ (Notes.ofLines lines).packageVersion] =
      { Notes.ofLines lines with changes := [] } := by
  obtain ⟨isVersion, isTag⟩ := parts_of_ofLines lines
  rw [packageVersion_of_tag isTag, ← List.append_assoc]
  exact ofLines_headerLine isVersion isTag

/-- The notes of any lines have one to three numbers as their version and no tag or one without
blank characters; their package version stands in the header line, and read as a header it gives the
same version and the same tag, so no two headers have one package version. -/
theorem package_version_codes_header (lines : List Text) :
    let notes := Notes.ofLines lines
    IsVersion notes.version ∧ (∀ tag ∈ notes.tag, IsTag tag) ∧
      Notes.ofLines ["## ".toList ++ notes.packageVersion] = { notes with changes := [] } ∧
      (∀ first ∈ lines.head?, IsHeader first → ∃ blanks rest,
        first = "##".toList ++ blanks ++ notes.packageVersion ++ rest ∧
          ∀ c ∈ blanks, isBlank c) ∧
      ∀ others, (Notes.ofLines others).packageVersion = notes.packageVersion →
        (Notes.ofLines others).version = notes.version ∧
          (Notes.ofLines others).tag = notes.tag := by
  intro notes
  obtain ⟨isVersion, isTag⟩ := parts_of_ofLines lines
  refine ⟨isVersion, isTag, ofLines_package_version lines, ?_, ?_⟩
  · intro first isFirst header
    obtain ⟨others, rfl⟩ := List.head?_eq_some_iff.1 isFirst
    obtain ⟨h, changes, found, read⟩ := ofLines_of_isHeader header others
    rw [packageVersion_of_tag isTag, read]
    exact exists_line_of_read? found
  · intro others same
    have decoded := ofLines_package_version others
    rw [same, ofLines_package_version lines] at decoded
    exact ⟨(congrArg Notes.version decoded).symm, (congrArg Notes.tag decoded).symm⟩

/-- Digits of two scripts and a tag with hyphens, full stops and digits, before other text and other
changes; a fourth number and a hyphen with nothing behind it belong to no version. -/
theorem package_version_codes_header_hyphens :
    let lines := ["##\u2003١.2.3--1.0-x (old)\n".toList, "* Fix".toList]
    let others := ["## ١.2.3--1.0-x".toList]
    ((Notes.ofLines others).packageVersion = (Notes.ofLines lines).packageVersion ∧
        (Notes.ofLines others).version = (Notes.ofLines lines).version ∧
        (Notes.ofLines others).tag = (Notes.ofLines lines).tag) ∧
      Notes.ofLines ["## ".toList ++ (Notes.ofLines lines).packageVersion] =
        ⟨"١.2.3".toList, some "-1.0-x".toList, []⟩ ∧
      (Notes.ofLines ["## 1.2.3.4-rc".toList]).packageVersion = "1.2.3".toList ∧
      (Notes.ofLines ["## 1.2-".toList]).packageVersion = "1.2".toList := by
  intro lines others
  have same : (Notes.ofLines others).packageVersion = (Notes.ofLines lines).packageVersion := by
    decide +kernel
  obtain ⟨-, -, again, -, injective⟩ := package_version_codes_header lines
  exact ⟨⟨same, injective others same⟩, again.trans (by decide +kernel), by decide +kernel,
    by decide +kernel⟩

end Stencil.Release
