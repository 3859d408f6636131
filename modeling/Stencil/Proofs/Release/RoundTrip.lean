import Mathlib.Data.List.Forall2
import Stencil.Proofs.Release.Headers
import Stencil.Proofs.Text.Cutting

/-!
Writing release notes and reading them back.  Every line of the canonical layout is trimmed, so
blank characters put around it do not show, and the changes end where the layout ends.
-/
namespace Stencil.Release

open Text

/-! ## Lines of changes -/

section Changes

variable {change : Text}

theorem first_of_isChange
    (isChange : IsChange change) :
    ∃ c rest, change = c :: rest ∧ isBlank c = false := by
  obtain ⟨c, rest, rfl⟩ := List.exists_cons_of_ne_nil isChange.nonempty
  refine ⟨c, rest, rfl, (trimmed_trim (c :: rest)).first c ?_⟩
  rw [isChange.trimmed]
  rfl

theorem changeOf_changeLine
    (isChange : IsChange change) :
    changeOf (changeLine change) = change := by
  obtain ⟨c, rest, rfl, ink⟩ := first_of_isChange isChange
  have blank : isBlank ' ' := by decide
  have start : trimStart (' ' :: c :: rest) = c :: rest := by
    rw [trimStart, List.dropWhile_cons_of_pos blank]
    exact trimStart_cons_of_ink ink rest
  simp [changeOf, changeLine, blank, start]

theorem endsChanges_changeLine (change : Text) : endsChanges (changeLine change) = false := by
  have ink : isBlank '*' = false := by decide
  simp [endsChanges, changeLine, ink, Header.read?]

theorem trim_changeLine
    (isChange : IsChange change) :
    trim (changeLine change) = changeLine change := by
  refine trim_of_trimmed ⟨?_, ?_⟩
  · intro c first
    cases first
    decide
  · intro c last
    refine (trimmed_trim change).last c ?_
    rw [isChange.trimmed]
    have shown : (changeLine change).getLast? = change.getLast? := by
      obtain ⟨d, rest, rfl⟩ := List.exists_cons_of_ne_nil isChange.nonempty
      simp [changeLine]
    rwa [shown] at last

end Changes

/-! ## Header lines -/

section Headers

variable {version : Text} {tag : Option Text} (isVersion : IsVersion version)
  (isTag : ∀ t ∈ tag, IsTag t)

include isVersion isTag

theorem trim_headerLine : trim (headerLine version tag) = headerLine version tag := by
  obtain ⟨digit, rest, parts, _⟩ := Header.first_of_isVersion isVersion
  have some_left : version ++ tagMark tag ≠ [] := by
    rw [parts]
    exact List.cons_ne_nil digit _
  refine trim_of_trimmed ⟨?_, ?_⟩
  · intro c first
    cases first
    decide
  · intro c last
    rw [headerLine, List.append_assoc, List.getLast?_append_of_ne_nil _ some_left] at last
    exact Header.ink_of_mem isVersion isTag (List.mem_of_getLast? last)

theorem lineFeed_not_mem_headerLine : '\n' ∉ headerLine version tag := by
  intro member
  rw [headerLine, List.append_assoc, List.mem_append] at member
  rcases member with inSigns | inVersion
  · exact absurd inSigns (by decide)
  · exact absurd (Header.ink_of_mem isVersion isTag inVersion) (by decide)

end Headers

/-! ## Padded lines -/

theorem trim_of_padded
    {line written : Text}
    (padded : Padded line written) :
    trim written = trim line := by
  obtain ⟨before, after, rfl, blank⟩ := padded
  rw [List.forall_mem_append] at blank
  rw [List.append_assoc, trim_append_left fun c member => (blank.1 c member).1,
    trim_append_right fun c member => (blank.2 c member).1]

theorem lineFeed_not_mem_of_padded
    {line written : Text}
    (oneLine : '\n' ∉ line)
    (padded : Padded line written) :
    '\n' ∉ written := by
  obtain ⟨before, after, rfl, blank⟩ := padded
  rw [List.forall_mem_append] at blank
  simp only [List.mem_append, not_or]
  exact ⟨⟨fun member => (blank.1 _ member).2 rfl, oneLine⟩, fun member => (blank.2 _ member).2 rfl⟩

section Padding

variable {lines written : List Text} (padded : List.Forall₂ Padded lines written)

include padded

theorem lineFeed_not_mem_padded
    (clean : ∀ line ∈ lines, '\n' ∉ line) :
    ∀ line ∈ written, '\n' ∉ line := by
  induction padded with
  | nil => exact clean
  | cons first _ ih =>
      rw [List.forall_mem_cons] at clean ⊢
      exact ⟨lineFeed_not_mem_of_padded clean.1 first, ih clean.2⟩

theorem map_trim_padded
    (trimmed : ∀ line ∈ lines, trim line = line) :
    written.map trim = lines := by
  induction padded with
  | nil => rfl
  | cons first _ ih =>
      rw [List.forall_mem_cons] at trimmed
      rw [List.map_cons, trim_of_padded first, trimmed.1, ih trimmed.2]

end Padding

/-! ## The lines of notes -/

section Writable

variable {n : Notes} (writable : n.Writable)

include writable

theorem lineFeed_not_mem_lines : ∀ line ∈ n.lines, '\n' ∉ line := by
  refine List.forall_mem_cons.2 ⟨lineFeed_not_mem_headerLine writable.version writable.tag, ?_⟩
  refine List.forall_mem_map.2 fun change member inside => ?_
  rcases List.mem_append.1 inside with inBullet | inChange
  · exact absurd inBullet (by decide)
  · exact (writable.changes change member).oneLine inChange

theorem trim_lines : ∀ line ∈ n.lines, trim line = line := by
  refine List.forall_mem_cons.2 ⟨trim_headerLine writable.version writable.tag, ?_⟩
  exact List.forall_mem_map.2 fun change member => trim_changeLine (writable.changes change member)

/-- The lines of notes are read back when a line follows that ends the changes, or none. -/
theorem ofLines_lines
    {more : List Text}
    (ends : ∀ line ∈ more.head?, endsChanges line) :
    Notes.ofLines (n.lines ++ more) = n := by
  have header := Header.read?_headerLine writable.version writable.tag
  have going : ∀ line ∈ n.changes.map changeLine, (!endsChanges line) = true := by
    refine List.forall_mem_map.2 fun change _ => ?_
    rw [endsChanges_changeLine]
    rfl
  have read : (n.changes.map changeLine).map changeOf = n.changes := by
    have each : ∀ change ∈ n.changes, (changeOf ∘ changeLine) change = id change :=
      fun change member => changeOf_changeLine (writable.changes change member)
    rw [List.map_map, List.map_congr_left each, List.map_id]
  have stop : more.takeWhile (fun line => !endsChanges line) = [] := by
    cases more with
    | nil => rfl
    | cons line more => simp [ends line rfl]
  rw [Notes.lines, List.cons_append, Notes.ofLines, header]
  simp only [List.takeWhile_append_of_pos going, stop, List.append_nil, read]

end Writable

/-! ## The text of notes -/

theorem endsChanges_of_padded
    {line written : Text}
    (stops : line = [] ∨ IsHeader line)
    (padded : Padded line written) :
    endsChanges (trim written) := by
  rw [trim_of_padded padded]
  rcases stops with rfl | header
  · rfl
  · have found := Header.isSome_read?.2 (isHeader_trim header)
    rw [endsChanges, found, Bool.or_true]

/-- A text is cut into its lines and those of what follows them, which begin by ending the
changes. -/
theorem exists_more_lines
    {lines : List Text}
    {ending : Text}
    (clean : ∀ line ∈ lines, '\n' ∉ line)
    (some_line : lines ≠ [])
    (ends : Ending ending) :
    ∃ more, split '\n' (['\n'].intercalate lines ++ ending) = lines ++ more ∧
      ∀ line ∈ (more.map trim).head?, endsChanges line := by
  cases ends with
  | nothing =>
      refine ⟨[], ?_, fun line member => nomatch member⟩
      rw [List.append_nil, List.append_nil, split_eq_splitOn,
        List.splitOn_intercalate '\n' clean some_line]
  | @line line written rest stops oneLine padded below =>
      have apart := lineFeed_not_mem_of_padded oneLine padded
      have ended := endsChanges_of_padded stops padded
      have whole := split_intercalate_append clean some_line (written ++ rest)
      rcases below with rfl | below
      · rw [List.append_nil, split_of_not_mem apart] at whole
        refine ⟨[written], ?_, fun first member => ?_⟩
        · rw [List.append_nil, whole]
        · cases member
          exact ended
      · obtain ⟨more, rfl⟩ := List.head?_eq_some_iff.1 below
        rw [split_append apart] at whole
        refine ⟨_, whole, fun first member => ?_⟩
        cases member
        exact ended

theorem packageVersion_of_tag
    {n : Notes}
    (isTag : ∀ tag ∈ n.tag, IsTag tag) :
    n.packageVersion = n.version ++ tagMark n.tag := by
  obtain ⟨version, tag, changes⟩ := n
  cases tag with
  | none => exact (List.append_nil version).symm
  | some tag =>
      simp only [Notes.packageVersion, (isTag tag rfl).not_all_blank]
      rfl

/-- Release notes in their canonical layout are read back, whatever blank characters stand around
their lines and whatever older releases follow them. -/
theorem written_notes_read_back
    {n : Notes}
    {written : List Text}
    {ending : Text}
    (writable : n.Writable)
    (padded : List.Forall₂ Padded n.lines written)
    (ends : Ending ending) :
    let read := Notes.ofText (['\n'].intercalate written ++ ending)
    read = n ∧ read.packageVersion = n.version ++ tagMark n.tag := by
  intro read
  have clean := lineFeed_not_mem_padded padded (lineFeed_not_mem_lines writable)
  have trimmed := map_trim_padded padded (trim_lines writable)
  have some_line : written ≠ [] := by
    rintro rfl
    cases trimmed
  obtain ⟨more, lines, stop⟩ := exists_more_lines clean some_line ends
  have same : read = n := by
    simp only [read, Notes.ofText, lines, List.map_append, trimmed, ofLines_lines writable stop]
  refine ⟨same, ?_⟩
  rw [same, packageVersion_of_tag writable.tag]

theorem padded_of_all
    {line written : Text}
    (before after : Text)
    (whole : written = before ++ line ++ after)
    (blank : (before ++ after).all fun c => isBlank c && c != '\n') :
    Padded line written :=
  ⟨before, after, whole, fun c member => by simpa using List.all_eq_true.1 blank c member⟩

/-- Changes that begin like bullets and headers, and an older release below them. -/
theorem written_notes_read_back_bullets :
    let n : Notes :=
      ⟨"1.٢.3".toList, some "-rc.1".toList, ["*".toList, "## 2.0".toList, "** 7".toList]⟩
    let written :=
      ["\t## 1.٢.3--rc.1\r".toList, "* *".toList, "\u2003* ## 2.0\r".toList, "* ** 7 ".toList]
    let ending := '\n' :: "\u000b## 1.2-old text\r".toList ++ "\n* gone".toList
    (n.Writable ∧ List.Forall₂ Padded n.lines written ∧ Ending ending) ∧
      Notes.ofText (['\n'].intercalate written ++ ending) = n ∧
      n.packageVersion = "1.٢.3--rc.1".toList := by
  intro n written ending
  have version : IsVersion n.version :=
    ⟨"1".toList, ["٢".toList, "3".toList], by decide, by decide, by decide⟩
  have writable : n.Writable := ⟨version, by decide, by decide⟩
  have padded : List.Forall₂ Padded n.lines written := by
    refine .cons (padded_of_all "\t".toList "\r".toList (by decide) (by decide)) ?_
    refine .cons (padded_of_all [] [] (by decide) (by decide)) ?_
    refine .cons (padded_of_all "\u2003".toList "\r".toList (by decide) (by decide)) ?_
    exact .cons (padded_of_all [] " ".toList (by decide) (by decide)) .nil
  have header : IsHeader "## 1.2-old text".toList :=
    ⟨" ".toList, '1', ".2-old text".toList, by decide, by decide,
      List.forall_mem_singleton.2 (by decide), by decide⟩
  have stop : Padded "## 1.2-old text".toList "\u000b## 1.2-old text\r".toList :=
    padded_of_all "\u000b".toList "\r".toList (by decide) (by decide)
  have ends : Ending ending := .line (.inr header) (by decide) stop (.inr (by decide))
  obtain ⟨same, package⟩ := written_notes_read_back writable padded ends
  refine ⟨⟨writable, padded, ends⟩, same, ?_⟩
  rw [same] at package
  exact package.trans (by decide)

end Stencil.Release
