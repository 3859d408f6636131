import Stencil.Proofs.Settings.Store

/-!
Remarks that become keys.  A remark is passed over unless a line feed stands in it.  A remark that
still has its line end is read as an entry, and its key starts with the mark of the remark; no other
line leads to such a key, and the lines of a text have no line feeds.
-/
namespace Stencil.Settings

open Text

/-- The text starts like a remark. -/
def IsMarked (t : Text) : Prop :=
  t.head? = some '#' ∨ t.head? = some ';'

instance (t : Text) : Decidable (IsMarked t) :=
  inferInstanceAs (Decidable (_ ∨ _))

theorem IsMarked.append
    {t : Text}
    (marked : IsMarked t)
    (more : Text) :
    IsMarked (t ++ more) := by
  rcases marked with first | first <;> simp [IsMarked, first]

namespace Line

/-- A remark with a line feed behind its mark. -/
def IsFedRemark (line : Text) : Prop :=
  IsMarked (trimStart line) ∧ '\n' ∈ trimStart line

instance (line : Text) : Decidable (IsFedRemark line) :=
  inferInstanceAs (Decidable (_ ∧ _))

/-- What a line says that may still have its line end. -/
def ended (line : Text) : Line :=
  if IsFedRemark line then plainEntry (trim line) else plain line

end Line

/-- A file has a key that starts like a remark. -/
def File.HasMarkedKey (f : File) : Prop :=
  ∃ s ∈ f.sections, ∃ key ∈ s.keys, IsMarked key

instance (f : File) : Decidable f.HasMarkedKey :=
  inferInstanceAs (Decidable (∃ s ∈ f.sections, ∃ key ∈ s.keys, IsMarked key))

/-! ## Lines -/

namespace Line

/-- What is read as an entry has the characters already passed, and some more of the text, as its
key. -/
theorem entryFrom?_eq_some
    {passed t : Text}
    {l : Line}
    (found : entryFrom? passed t = some l) :
    ∃ more value, l = .entry (passed.reverse ++ more) value ∧ more <+: t := by
  induction t generalizing passed with
  | nil =>
      cases here : valueAfterKey? [] with
      | none => simp [entryFrom?, here] at found
      | some value =>
          obtain rfl : .entry passed.reverse value = l := by simpa [entryFrom?, here] using found
          exact ⟨[], value, by rw [List.append_nil], List.nil_prefix⟩
  | cons c cs ih =>
      rw [entryFrom?] at found
      split at found
      · next value _ =>
          cases found
          exact ⟨[], value, by rw [List.append_nil], List.nil_prefix⟩
      · split at found
        · cases found
        · obtain ⟨more, value, rfl, front⟩ := ih found
          refine ⟨c :: more, value, ?_, List.cons_prefix_cons.2 ⟨rfl, front⟩⟩
          rw [List.reverse_cons, List.append_assoc, List.singleton_append]

theorem read?_of_isFedRemark
    {line : Text}
    (fed : IsFedRemark line) :
    read? line = entryFrom? [] (trimStart line) := by
  have notRemark : isRemark (trimStart line) = false := by
    rw [Bool.eq_false_iff, Ne, isRemark_iff]
    rintro (empty | ⟨_, clean⟩)
    · rw [IsFedRemark, empty] at fed
      exact List.not_mem_nil fed.2
    · exact clean fed.2
  have notHeader : header? (trimStart line) = none := by
    refine header?_eq_none fun bracketed => ?_
    have first := fed.1
    rw [IsMarked, bracketed.1] at first
    revert first
    decide
  simp only [read?, notRemark, notHeader, Bool.false_eq_true, if_false]

/-- Among the lines that are read, the remarks with a line feed are the ones whose key starts like
a remark. -/
theorem isFedRemark_iff
    {line : Text}
    {l : Line}
    (read : read? line = some l) :
    IsFedRemark line ↔ ∃ key value, l = .entry key value ∧ IsMarked key := by
  constructor
  · intro fed
    rw [read?_of_isFedRemark fed] at read
    cases start : trimStart line with
    | nil =>
        rw [IsFedRemark, start] at fed
        exact absurd fed.2 List.not_mem_nil
    | cons c cs =>
        have marked : IsMarked [c] := by simpa [IsFedRemark, IsMarked, start] using fed.1
        -- A mark begins no value, so the key starts with it.
        have ink : isBlank c = false := head?_trimStart line c (by rw [start]; rfl)
        have other : c ≠ '=' := by
          rintro rfl
          revert marked
          decide
        have inLine : c ≠ '\n' := by
          rintro rfl
          revert marked
          decide
        rw [start, entryFrom?, valueAfterKey?_of_ink ink other, if_neg inLine] at read
        obtain ⟨more, value, rfl, _⟩ := entryFrom?_eq_some read
        exact ⟨_, value, rfl, marked.append more⟩
  · rintro ⟨key, value, rfl, marked⟩
    have notRemark : ¬ isRemark (trimStart line) := by
      intro remark
      rw [read?, if_pos remark] at read
      cases read
    rw [read?, if_neg notRemark] at read
    split at read
    · cases read
    · obtain ⟨more, _, same, front⟩ := entryFrom?_eq_some read
      obtain ⟨rfl, _⟩ := Line.entry.inj same
      obtain ⟨rest, parts⟩ := front
      have start : IsMarked (trimStart line) := by
        rw [← parts]
        exact marked.append rest
      refine ⟨start, ?_⟩
      by_contra clean
      exact notRemark (isRemark_iff.2 (.inr ⟨start, clean⟩))

theorem read?_eq_ended
    {line : Text}
    (clean : '\n' ∉ trim line) :
    read? line = some (ended line) := by
  rw [ended]
  split
  · next fed =>
      rw [read?_of_isFedRemark fed]
      exact entryFrom?_eq_plainEntry clean (head?_trimStart line)
  · next unfed =>
      exact read?_eq_plain_of_trim clean fun marked member => unfed ⟨marked, member⟩

end Line

/-! ## Files -/

/-- The entries that lines tell are assigned, each to the section that is open. -/
theorem History.assigned_ofLinesIn_iff
    {key : Text}
    {value : Option Text}
    {said : List Line}
    {current : Text} :
    (∃ name, .assigned name key value ∈ ofLinesIn current said) ↔ .entry key value ∈ said := by
  induction said generalizing current with
  | nil => simp [ofLinesIn]
  | cons l said ih =>
      cases l with
      | remark => simpa [ofLinesIn] using ih
      | header name => simpa [ofLinesIn] using ih
      | entry other value' =>
          simp only [ofLinesIn, List.mem_cons, Event.assigned.injEq, Line.entry.injEq,
            exists_or, ih]
          simp

theorem History.mem_keys_sections_iff
    {h : History}
    {key : Text} :
    (∃ s ∈ h.file.sections, key ∈ s.keys) ↔ ∃ name value, .assigned name key value ∈ h := by
  rw [sections_file]
  constructor
  · rintro ⟨s, member, inKeys⟩
    obtain ⟨name, _, rfl⟩ := List.mem_map.1 member
    rw [Section.keys, keys_sectionOf] at inKeys
    exact ⟨name, mem_keys.1 inKeys⟩
  · rintro ⟨name, value, assigned⟩
    have known : name ∈ h.names := List.mem_eraseDups.2 (List.mem_map.2 ⟨_, assigned, rfl⟩)
    refine ⟨h.sectionOf name, List.mem_map_of_mem known, ?_⟩
    rw [Section.keys, keys_sectionOf]
    exact mem_keys.2 ⟨value, assigned⟩

theorem File.hasMarkedKey_iff
    {lines : List Text}
    {f : File}
    (parsed : ofLines lines = .ok f) :
    f.HasMarkedKey ↔ ∃ line ∈ lines, Line.IsFedRemark line := by
  obtain ⟨said, read, rfl⟩ := ofLines_eq_ok_iff.1 parsed
  have source : ∀ l, l ∈ said ↔ ∃ line ∈ lines, Line.read? line = some l := by
    intro l
    rw [← List.mem_map, read]
    simp
  have entered : ∀ key, (∃ s ∈ (History.ofLines said).file.sections, key ∈ s.keys) ↔
      ∃ value, .entry key value ∈ said := by
    intro key
    rw [History.mem_keys_sections_iff, exists_comm]
    refine exists_congr fun value => ?_
    simp only [History.ofLines, List.mem_cons, reduceCtorEq, false_or]
    exact History.assigned_ofLinesIn_iff
  constructor
  · rintro ⟨s, member, key, inKeys, marked⟩
    obtain ⟨value, said⟩ := (entered key).1 ⟨s, member, inKeys⟩
    obtain ⟨line, inLines, read⟩ := (source _).1 said
    exact ⟨line, inLines, (Line.isFedRemark_iff read).2 ⟨key, value, rfl, marked⟩⟩
  · rintro ⟨line, inLines, fed⟩
    have some_read : Line.read? line ∈ said.map some := read ▸ List.mem_map_of_mem inLines
    obtain ⟨l, inSaid, read⟩ := List.mem_map.1 some_read
    obtain ⟨key, value, rfl, marked⟩ := (Line.isFedRemark_iff read.symm).1 fed
    obtain ⟨s, member, inKeys⟩ := (entered key).2 ⟨value, inSaid⟩
    exact ⟨s, member, key, inKeys, marked⟩

/-- Lines that are clean but for their line ends are always read. -/
theorem File.ofLines_eq_ended
    {lines : List Text}
    (clean : ∀ line ∈ lines, '\n' ∉ trim line) :
    ofLines lines = .ok (History.ofLines (lines.map .ended)).file := by
  refine ofLines_eq_ok_iff.2 ⟨lines.map .ended, ?_, rfl⟩
  rw [List.map_map]
  exact List.map_congr_left fun line member => Line.read?_eq_ended (clean line member)

theorem File.not_hasMarkedKey
    {lines : List Text}
    (clean : ∀ line ∈ lines, '\n' ∉ line) :
    ∃ f, ofLines lines = .ok f ∧ ¬ f.HasMarkedKey := by
  have parsed := ofLines_eq_file clean
  refine ⟨_, parsed, fun marked => ?_⟩
  obtain ⟨line, member, _, fed⟩ := (hasMarkedKey_iff parsed).1 marked
  exact clean line member ((List.dropWhile_suffix isBlank).subset fed)

/-- A file that is read has a key that starts like a remark exactly when one of its lines is a
remark with a line feed behind its mark.  Lines that are clean but for their line ends are always
read, and every remark among them that has its line end is taken for an entry.  The lines of a text
have no line ends, whether the text comes from memory or from the disk, so no remark of a text
becomes a key. -/
theorem marked_key_iff_fedRemark (lines : List Text) (content : Text) :
    (∀ f, File.ofLines lines = .ok f →
      (f.HasMarkedKey ↔ ∃ line ∈ lines, Line.IsFedRemark line)) ∧
    ((∀ line ∈ lines, '\n' ∉ trim line) →
      File.ofLines lines = .ok (History.ofLines (lines.map .ended)).file) ∧
    (∃ f, File.ofText content = .ok f ∧ ¬ f.HasMarkedKey) ∧
      ∃ f, File.ofFileText content = .ok f ∧ ¬ f.HasMarkedKey :=
  ⟨fun _ parsed => File.hasMarkedKey_iff parsed, File.ofLines_eq_ended,
    File.not_hasMarkedKey fun _ => not_mem_of_mem_split,
    File.not_hasMarkedKey fun _ => not_mem_of_mem_splitLines⟩

/-- Remarks with and without a line end, and marks that begin no line. -/
theorem marked_key_iff_fedRemark_ends :
    let lines := ["# a\n".toList, " ;b = #1 \r\n".toList, "[#s]\n".toList, "k = #v\n".toList,
      "\n".toList, "# c".toList]
    let f : File := ⟨[([], ⟨[], [("# a".toList, none), (";b".toList, some "#1".toList)]⟩),
      ("#s".toList, ⟨"#s".toList, [("k".toList, some "#v".toList)]⟩)]⟩
    (∀ line ∈ lines, '\n' ∉ trim line) ∧ File.ofLines lines = .ok f ∧ f.HasMarkedKey := by
  intro lines f
  have clean : ∀ line ∈ lines, '\n' ∉ trim line := by decide +kernel
  have fed : ∃ line ∈ lines, Line.IsFedRemark line := by decide +kernel
  obtain ⟨marked, ended, _⟩ := marked_key_iff_fedRemark lines []
  have parsed : File.ofLines lines = .ok f := by
    rw [ended clean]
    decide +kernel
  exact ⟨clean, parsed, (marked f parsed).2 fed⟩

/-- A remark that has its line end becomes a key. -/
theorem remark_with_lineEnd_is_key :
    File.ofLines ["# note\n".toList] = .ok ⟨[([], ⟨[], [("# note".toList, none)]⟩)]⟩ ∧
      ¬ ∀ lines f, File.ofLines lines = .ok f → ¬ f.HasMarkedKey := by
  have parsed : File.ofLines ["# note\n".toList] =
      .ok ⟨[([], ⟨[], [("# note".toList, none)]⟩)]⟩ := by
    decide +kernel
  exact ⟨parsed, fun unmarked => unmarked _ _ parsed (by decide)⟩

end Stencil.Settings
