import Stencil.Proofs.Settings.Reading
import Stencil.Settings.Printer

/-!
Writing settings and reading them back.  Every line that is written says what it was written for,
whatever blank characters come before its end, and the sections are entered again one by one.
-/
namespace Stencil.Settings

open Text

/-! ## What written lines say -/

namespace Line

variable {line key name : Text} {value : Option Text}

theorem plain_header (trimmed : trim name = name) :
    plain ('[' :: name ++ [']']) = .header name := by
  have last : ('[' :: name ++ [']']).getLast? = some ']' := List.getLast?_concat
  have whole : trim ('[' :: name ++ [']']) = '[' :: name ++ [']'] := by
    refine trim_of_trimmed ⟨?_, ?_⟩
    · intro c first
      cases first
      decide
    · intro c found
      rw [last] at found
      cases found
      decide
  have inside : ('[' :: name ++ [']']).tail.dropLast = name := List.dropLast_concat
  rw [plain, whole, last, inside, trimmed]
  simp

theorem plain_eq_plainEntry
    (nonempty : trim line ≠ [])
    (first : (trim line).head? ∉ [some '#', some ';', some '[']) :
    plain line = plainEntry (trim line) := by
  simp only [List.mem_cons, List.not_mem_nil, or_false, not_or] at first
  obtain ⟨hash, semicolon, bracket⟩ := first
  have said : ¬ (trim line = [] ∨ (trim line).head? = some '#' ∨ (trim line).head? = some ';') := by
    rintro (empty | found | found)
    · exact nonempty empty
    · exact hash found
    · exact semicolon found
  exact (if_neg said).trans (if_neg fun bracketed => bracket bracketed.1)

theorem plain_key (writable : WritableKey key) : plain key = .entry key none := by
  have trimmed := writable.trimmed
  rw [plain_eq_plainEntry, trimmed, plainEntry, cut?_of_not_mem writable.noSign]
  · exact trimmed.symm ▸ writable.nonempty
  · exact trimmed.symm ▸ writable.first

theorem plain_assignment
    (writable : WritableKey key)
    {value : Text}
    (trimmed : trim value = value) :
    plain (entryLine key (some value)) = .entry key (some value) := by
  obtain ⟨c, cs, rfl⟩ := List.exists_cons_of_ne_nil writable.nonempty
  have ink : isBlank c = false := by
    refine (trimmed_trim (c :: cs)).first c ?_
    rw [writable.trimmed]
    rfl
  have parts : entryLine (c :: cs) (some value) =
      (c :: cs ++ [' ']) ++ '=' :: ([' '] ++ value) := by
    simp [entryLine]
  have whole : trim (entryLine (c :: cs) (some value)) =
      (c :: cs ++ [' ']) ++ '=' :: trimEnd ([' '] ++ value) := by
    rw [parts, trim, trimStart_of_first, trimEnd_append_cons (by decide)]
    intro d first
    cases first
    exact ink
  have space : ∀ d ∈ [' '], isBlank d := List.forall_mem_singleton.2 (by decide)
  have apart : '=' ∉ c :: cs ++ [' '] := by
    rw [List.mem_append, not_or]
    exact ⟨writable.noSign, by decide⟩
  rw [plain_eq_plainEntry, whole, plainEntry, cut?_append apart]
  · simp only [trim_append_right space, writable.trimmed, trim_trimEnd, trim_append_left space,
      trimmed]
  · rw [whole]
    exact List.cons_ne_nil c _
  · rw [whole]
    exact writable.first

theorem plain_entryLine
    (writable : WritableKey key)
    (compact : ∀ v ∈ value, Compact v) :
    plain (entryLine key value) = .entry key value := by
  cases value with
  | none => exact plain_key writable
  | some value => exact plain_assignment writable (compact value rfl).trimmed

end Line

/-! ## The lines of a text -/

-- Every piece but the last still has what comes before the line feed in a line end.
theorem map_plain_split
    {lines : List Text}
    {b : Text}
    (clean : ∀ line ∈ lines, '\n' ∉ line)
    (some_line : lines ≠ [])
    (blank : ∀ c ∈ b, isBlank c)
    (oneLine : '\n' ∉ b) :
    (split '\n' ((b ++ ['\n']).intercalate lines)).map Line.plain = lines.map Line.plain := by
  induction lines with
  | nil => exact absurd rfl some_line
  | cons line lines ih =>
      rw [List.forall_mem_cons] at clean
      cases lines with
      | nil => rw [List.intercalate_singleton, split_of_not_mem clean.1]
      | cons next lines =>
          have apart : '\n' ∉ line ++ b := by
            rw [List.mem_append, not_or]
            exact ⟨clean.1, oneLine⟩
          rw [List.intercalate_cons_cons, List.append_assoc, List.append_assoc, ← List.append_assoc,
            List.singleton_append, split_append apart, List.map_cons, Line.plain_append_right blank,
            ih clean.2 (List.cons_ne_nil next lines), ← List.map_cons]

/-- Lines that are joined by a line end are read as they are. -/
theorem File.ofText_intercalate
    {lines : List Text}
    {b : Text}
    (clean : ∀ line ∈ lines, '\n' ∉ line)
    (blank : ∀ c ∈ b, isBlank c)
    (oneLine : '\n' ∉ b) :
    ofText ((b ++ ['\n']).intercalate lines) = ofLines lines := by
  by_cases some_line : lines = []
  · subst some_line
    rfl
  · rw [ofText_eq_file, map_plain_split clean some_line blank oneLine, ofLines_eq_file clean]

/-! ## Entering sections -/

/-- What the lines of entries say. -/
def Section.said (s : Section) : List Line :=
  s.entries.map fun e => .entry e.1 e.2

theorem File.set_put (table : Table Section) (s : Section) (name key : Text) (value : Option Text) :
    File.set ⟨table.put name s⟩ name key value = ⟨table.put name (s.set key value)⟩ := by
  have found : File.find? ⟨table.put name s⟩ name = some s := by
    rw [File.find?, Table.get?_put, if_pos rfl]
  have touched : File.touch ⟨table.put name s⟩ name = ⟨table.put name s⟩ := by
    rw [File.touch, found]
    rfl
  have own : File.get ⟨table.put name s⟩ name = s := by
    rw [File.get, found]
    rfl
  rw [File.set, File.modify, touched, own, Table.put_put]

-- `done` holds the entries that were entered before; a key that is not among them goes to the end.
theorem Reading.foldl_entries
    (table : Table Section)
    (name : Text)
    (entries done : Table (Option Text))
    (distinct : (done ++ entries).names.Nodup) :
    (entries.map fun e => Line.entry e.1 e.2).foldl next ⟨⟨table.put name ⟨name, done⟩⟩, name⟩ =
      ⟨⟨table.put name ⟨name, done ++ entries⟩⟩, name⟩ := by
  induction entries generalizing done with
  | nil => simp
  | cons e entries ih =>
      have new : e.1 ∉ done.names := by
        rw [Table.names, List.map_append, List.nodup_append] at distinct
        exact fun known => distinct.2.2 e.1 known e.1 List.mem_cons_self rfl
      have put : (Section.mk name done).set e.1 e.2 = ⟨name, done ++ [e]⟩ :=
        congrArg (Section.mk name) (Table.put_of_not_mem new e.2)
      rw [List.map_cons, List.foldl_cons, next, File.set_put, put, ih, List.append_assoc]
      · rfl
      · rw [List.append_assoc]
        exact distinct

theorem Reading.foldl_sections
    (others : List Section)
    (table : Table Section)
    (current : Text)
    (distinct : (table.names ++ others.map Section.name).Nodup)
    (distinctKeys : ∀ s ∈ others, s.keys.Nodup) :
    ((others.flatMap fun s => .header s.name :: s.said).foldl next ⟨⟨table⟩, current⟩).file =
      ⟨table ++ others.map fun s => (s.name, s)⟩ := by
  induction others generalizing table current with
  | nil => simp
  | cons s others ih =>
      rw [List.forall_mem_cons] at distinctKeys
      have new : s.name ∉ table.names := by
        rw [List.nodup_append] at distinct
        exact fun known => distinct.2.2 s.name known s.name List.mem_cons_self rfl
      have missing : (File.find? ⟨table⟩ s.name).isSome = false := by
        rw [Bool.eq_false_iff, ne_eq, File.find?, Table.isSome_get?]
        exact new
      -- The header finds no section of its name, so the section goes behind all others.
      have opened : next ⟨⟨table⟩, current⟩ (.header s.name) =
          ⟨⟨table.put s.name ⟨s.name, []⟩⟩, s.name⟩ := by
        rw [next, File.touch, missing]
        rfl
      rw [List.flatMap_cons, List.cons_append, List.foldl_cons, opened, List.foldl_append,
        Section.said, foldl_entries table s.name s.entries [] distinctKeys.1, List.nil_append,
        Table.put_of_not_mem new, ih _ _ _ distinctKeys.2, List.map_cons, List.append_assoc]
      · rfl
      · rw [Table.names, List.map_append, List.append_assoc]
        exact distinct

/-! ## Whole files -/

theorem not_mem_entryLine
    {key : Text}
    {value : Option Text}
    (writable : WritableKey key)
    (compact : ∀ v ∈ value, Compact v) :
    '\n' ∉ entryLine key value := by
  cases value with
  | none => exact writable.oneLine
  | some value =>
      rw [entryLine, List.mem_append, List.mem_append, not_or, not_or]
      exact ⟨⟨writable.oneLine, by decide⟩, (compact value rfl).oneLine⟩

namespace Section.Writable

variable {s : Section}

theorem entry (writable : s.Writable) {e : Text × Option Text} (member : e ∈ s.entries) :
    WritableKey e.1 ∧ ∀ v ∈ e.2, Compact v :=
  ⟨writable.keys e.1 (List.mem_map_of_mem member), writable.values e member⟩

theorem map_plain_entryLines (writable : s.Writable) :
    s.entryLines.map Line.plain = s.said := by
  rw [Section.entryLines, List.map_map, Section.said]
  refine List.map_congr_left fun e member => ?_
  exact Line.plain_entryLine (writable.entry member).1 (writable.entry member).2

theorem clean_entryLines (writable : s.Writable) :
    ∀ line ∈ s.entryLines, '\n' ∉ line := by
  intro line written
  obtain ⟨e, member, rfl⟩ := List.mem_map.1 written
  exact not_mem_entryLine (writable.entry member).1 (writable.entry member).2

end Section.Writable

namespace File

variable {f : File} {root : Section} {others : List Section}

theorem Writable.clean_lines (writable : f.Writable) : ∀ line ∈ f.lines, '\n' ∉ line := by
  intro line written
  rw [lines] at written
  split at written
  · cases written
  · next root others parts =>
      have each := writable.sections
      have names := writable.names
      rw [parts, List.forall_mem_cons] at each
      rw [parts, List.tail_cons] at names
      rw [List.mem_append, List.mem_flatMap] at written
      rcases written with first | ⟨s, member, own⟩
      · exact each.1.clean_entryLines line first
      · rw [Section.lines, List.mem_cons] at own
        rcases own with rfl | own
        · have oneLine := (names s member).2.oneLine
          simpa using oneLine
        · exact (each.2 s member).clean_entryLines line own

theorem Writable.map_plain_lines
    (writable : f.Writable)
    (parts : f.sections = root :: others) :
    f.lines.map Line.plain =
      root.said ++ others.flatMap fun s => .header s.name :: s.said := by
  have each := writable.sections
  have names := writable.names
  rw [parts, List.forall_mem_cons] at each
  rw [parts, List.tail_cons] at names
  have said : ∀ s ∈ others, s.lines.map Line.plain = .header s.name :: s.said := by
    intro s member
    rw [Section.lines, List.map_cons, Line.plain_header (names s member).2.trimmed,
      (each.2 s member).map_plain_entryLines]
  rw [lines, parts, List.map_append, each.1.map_plain_entryLines, List.map_flatMap]
  exact congrArg _ (List.flatMap_congr said)

theorem Writable.ofLines_lines (writable : f.Writable) :
    ofLines f.lines = .ok ⟨f.sections.map fun s => (s.name, s)⟩ := by
  obtain ⟨⟨name, entries⟩, first, rfl⟩ := Option.map_eq_some_iff.1 writable.root
  obtain ⟨others, parts⟩ := List.head?_eq_some_iff.1 first
  have distinct := writable.distinct
  have names := writable.names
  have each := writable.sections
  rw [parts, List.forall_mem_cons] at each
  rw [parts, List.tail_cons] at distinct names
  have started : Reading.start = ⟨⟨Table.put [] ⟨[], []⟩ []⟩, []⟩ := rfl
  have rootLast : Table.put [] ⟨[], entries⟩ [] = [([], Section.mk [] entries)] := rfl
  have apart : (Table.names [([], Section.mk [] entries)] ++ others.map Section.name).Nodup := by
    rw [Table.names, List.map_singleton, List.singleton_append, List.nodup_cons]
    refine ⟨fun member => ?_, distinct⟩
    obtain ⟨s, member, unnamed⟩ := List.mem_map.1 member
    exact (names s member).1 unnamed
  rw [ofLines, Reading.read_eq_foldl writable.clean_lines, ← List.foldl_map,
    writable.map_plain_lines parts, List.foldl_append, started, Section.said,
    Reading.foldl_entries [] [] entries [] each.1.distinct, List.nil_append, rootLast,
    Reading.foldl_sections others _ _ apart fun s member => (each.2 s member).distinct, parts]
  rfl

/-- What is written is read back, with either line end. -/
theorem render_read_back
    {f : File}
    (writable : f.Writable)
    {lineEnd : Text}
    (lineFeed : lineEnd = "\n".toList ∨ lineEnd = "\r\n".toList) :
    ∃ g, ofText (f.render lineEnd) = .ok g ∧ g.sections = f.sections ∧
      ((∀ e ∈ f.table, e.2.name = e.1) → g = f) := by
  have read : ofText (f.render lineEnd) = ofLines f.lines := by
    rcases lineFeed with rfl | rfl
    · exact ofText_intercalate (b := []) writable.clean_lines (List.forall_mem_nil _) (by decide)
    · exact ofText_intercalate (b := ['\r']) writable.clean_lines
        (List.forall_mem_singleton.2 (by decide)) (by decide)
  refine ⟨_, read.trans writable.ofLines_lines, ?_, fun named => ?_⟩
  · rw [sections, List.map_map]
    exact List.map_id _
  · have same : f.table.map ((fun s => (s.name, s)) ∘ Prod.snd) = f.table.map id :=
      List.map_congr_left fun e member => Prod.ext (named e member) rfl
    rw [sections, List.map_map, same, List.map_id]

theorem render_read_back_signs :
    let f : File := ⟨[
      ([], ⟨[], [("a b".toList, some "[c] = # d".toList), ("]".toList, none),
        ("e\r#".toList, some [])]⟩),
      ("f]# [g".toList, ⟨"f]# [g".toList, []⟩),
      ("=".toList, ⟨"=".toList, [("a b".toList, some "; h".toList)]⟩)]⟩
    f.Writable ∧ f.render "\r\n".toList =
        "a b = [c] = # d\r\n]\r\ne\r# = \r\n[f]# [g]\r\n[=]\r\na b = ; h".toList ∧
      ofText (f.render "\n".toList) = .ok f ∧ ofText (f.render "\r\n".toList) = .ok f := by
  intro f
  have writable : f.Writable := by decide +kernel
  have named : ∀ e ∈ f.table, e.2.name = e.1 := by decide +kernel
  obtain ⟨g, read, _, same⟩ := render_read_back writable (.inl rfl)
  obtain ⟨g', read', _, same'⟩ := render_read_back writable (.inr rfl)
  refine ⟨writable, by decide +kernel, ?_, ?_⟩
  · rw [read, same named]
  · rw [read', same' named]

end File

end Stencil.Settings
