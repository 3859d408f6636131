import Stencil.Command.Faults
import Stencil.Proofs.Files.Ascent
import Stencil.Proofs.Table
import Stencil.Proofs.Text.Cutting

/-!
Gathering the sources of `expand`: what is gathered was read from the definitions and the files in
effect, and what cannot be gathered has a fault.
-/
namespace Stencil

open Text

/-! ## Steps that may fail -/

section Steps

variable {α β ε : Type} {step : α → Except ε β} {l : List α}

theorem mapM_eq_map_of_ok
    {value : α → β}
    (values : ∀ a b, step a = .ok b → b = value a)
    {results : List β}
    (ran : l.mapM step = .ok results) :
    results = l.map value := by
  induction l generalizing results with
  | nil => exact (Except.ok.inj ran).symm
  | cons a l ih =>
      rw [List.mapM_cons] at ran
      cases first : step a with
      | error e =>
          rw [first] at ran
          cases ran
      | ok b =>
          cases later : l.mapM step with
          | error e =>
              rw [first, later] at ran
              cases ran
          | ok rest =>
              rw [first, later] at ran
              rw [← Except.ok.inj ran, ih later, values a b first]
              rfl

theorem mapM_error_of_mem
    {a : α}
    {e : ε}
    (member : a ∈ l)
    (fails : step a = .error e) :
    ∃ e, l.mapM step = .error e := by
  induction l with
  | nil => cases member
  | cons head l ih =>
      rw [List.mapM_cons]
      cases first : step head with
      | error e => exact ⟨e, rfl⟩
      | ok b =>
          cases member with
          | head =>
              rw [first] at fails
              cases fails
          | tail _ inside =>
              obtain ⟨e, failed⟩ := ih inside
              rw [failed]
              exact ⟨e, rfl⟩

/-- A list of steps fails like one of them. -/
theorem exists_step_of_mapM_error
    {e : ε}
    (failed : l.mapM step = .error e) :
    ∃ a ∈ l, step a = .error e := by
  induction l with
  | nil => cases failed
  | cons a l ih =>
      rw [List.mapM_cons] at failed
      cases first : step a with
      | error e =>
          rw [first] at failed
          cases failed
          exact ⟨a, List.mem_cons_self, first⟩
      | ok b =>
          cases later : l.mapM step with
          | error e =>
              rw [first, later] at failed
              cases failed
              obtain ⟨other, inside, fails⟩ := ih later
              exact ⟨other, List.mem_cons_of_mem a inside, fails⟩
          | ok rest =>
              rw [first, later] at failed
              cases failed

end Steps

namespace Command

variable {c : Config} {w : World} {o : ExpandOptions} {start : Location}

/-! ## Definitions -/

theorem readDefine_word (define : Text) :
    readDefine (.word define) =
      if IsMalformed define then .error (.definition define)
      else .ok (definedName define, definedValue define) := by
  rw [readDefine, cut?_eq_ite]
  by_cases signed : '=' ∈ define
  · rw [if_pos signed, ← definedName]
    cases key : definedName define with
    | nil => rw [if_pos (.inr key)]
    | cons c cs =>
        have sound : ¬ IsMalformed define := by
          rintro (unsigned | unnamed)
          · exact unsigned signed
          · rw [key] at unnamed
            cases unnamed
        rw [if_neg sound]
        rfl
  · rw [if_neg signed, if_pos (.inl signed)]

theorem readDefine_ok
    (argument : Argument)
    (e : Text × Text)
    (read : readDefine argument = .ok e) :
    e = (definedName argument.text, definedValue argument.text) := by
  cases argument with
  | nothing => cases read
  | word define =>
      rw [readDefine_word] at read
      split at read
      · cases read
      · exact (Except.ok.inj read).symm

theorem readDefines_error_of_malformed
    {defines : List Argument}
    {define : Text}
    (given : .word define ∈ defines)
    (malformed : IsMalformed define) :
    ∃ failure, readDefines defines = .error failure := by
  have fails : readDefine (.word define) = .error (.definition define) := by
    rw [readDefine_word, if_pos malformed]
  obtain ⟨failure, failed⟩ := mapM_error_of_mem given fails
  rw [readDefines, failed]
  exact ⟨failure, rfl⟩

theorem readDefines_error
    {defines : List Argument}
    {failure : Failure}
    (failed : readDefines defines = .error failure) :
    failure = .noDefinition ∧ .nothing ∈ defines ∨
      failure.isReported = true ∧ ∃ define, .word define ∈ defines ∧ IsMalformed define := by
  rw [readDefines] at failed
  cases all : defines.mapM readDefine with
  | ok pairs =>
      rw [all] at failed
      cases failed
  | error e =>
      rw [all] at failed
      cases failed
      obtain ⟨argument, given, fails⟩ := exists_step_of_mapM_error all
      cases argument with
      | nothing =>
          cases fails
          exact .inl ⟨rfl, given⟩
      | word define =>
          rw [readDefine_word] at fails
          split at fails
          · next malformed =>
              cases fails
              exact .inr ⟨rfl, define, given, malformed⟩
          · cases fails

/-- The table of the definitions has the last value of every name. -/
theorem get?_readDefines
    {defines : List Argument}
    {table : Table Text}
    (read : readDefines defines = .ok table)
    (name : Text) :
    table.get? name = lastDefined (defines.map Argument.text) name := by
  rw [readDefines] at read
  cases all : defines.mapM readDefine with
  | error e =>
      rw [all] at read
      cases read
  | ok pairs =>
      rw [all] at read
      rw [← Except.ok.inj read, Table.get?_ofPairs, mapM_eq_map_of_ok readDefine_ok all,
        ← List.map_reverse, List.find?_map, Option.map_map, lastDefined, ← List.map_reverse,
        List.find?_map, Option.map_map]
      rfl

/-! ## Files in effect -/

theorem namesNothing_of_not_word
    {given : Option Argument}
    (other : ∀ c cs, given = some (.word (c :: cs)) → False) :
    NamesNothing given := by
  rintro argument member
  obtain rfl := member
  match argument with
  | .nothing => rfl
  | .word [] => rfl
  | .word (c :: cs) => exact (other c cs rfl).elim

theorem seekFile_ok
    {t : FileTree}
    {name : Path}
    {found : Option Path}
    (sought : t.seekFile start name = .ok found) :
    found = t.findFile start name := by
  rw [FileTree.seekFile] at sought
  split at sought
  · cases sought
  · exact (Except.ok.inj sought).symm

theorem locate_ok
    {given : Option Argument}
    {name : Text}
    {located : Option Located}
    (found : locate w start given name = .ok located) :
    InEffect w start name given (located.map Located.path) := by
  unfold locate at found
  split at found
  · rw [← Except.ok.inj found]
    exact .named (List.cons_ne_nil _ _)
  · next other =>
      have unnamed := namesNothing_of_not_word other
      split at found
      · cases found
      · next path? sought =>
          rw [← Except.ok.inj found, Option.map_map, seekFile_ok sought, FileTree.findFile]
          cases nearest : start.search fun l =>
              w.tree.isFile [] ((Path.ofLocation l).join (Path.ofText name)) with
          | none => exact .missing unnamed (Location.search_eq_none_iff.1 nearest)
          | some l => exact .found unnamed (Location.search_eq_some_iff.1 nearest)

theorem loadSettings?_some
    {p : Path}
    {file : Settings.File}
    (loaded : w.tree.loadSettings? w.folder p = .ok (some file)) :
    HoldsSettings w p file := by
  unfold FileTree.loadSettings? at loaded
  split at loaded
  · cases loaded
  · split at loaded
    · split at loaded
      · cases loaded
      · next text content =>
          split at loaded
          · cases loaded
          · next read =>
              cases loaded
              exact ⟨text, content, read⟩
    · cases loaded

theorem loadSettings_ok
    {p : Path}
    {shown : Text}
    {file : Settings.File}
    (loaded : w.tree.loadSettings w.folder p shown = .ok file) :
    HoldsSettings w p file := by
  unfold FileTree.loadSettings at loaded
  split at loaded
  · cases loaded
  · cases loaded
  · next found =>
      cases loaded
      exact loadSettings?_some found

theorem loadNotes_ok
    {p : Path}
    {notes : Release.Notes}
    (loaded : w.tree.loadNotes w.folder p = .ok notes) :
    HoldsNotes w p notes := by
  rw [FileTree.loadNotes] at loaded
  cases content : w.tree.loadText w.folder p with
  | error e =>
      rw [content] at loaded
      cases loaded
  | ok text =>
      rw [content] at loaded
      exact ⟨text, content, Except.ok.inj loaded⟩

theorem gatherSettings_ok
    {chosen : Option Settings.Section}
    {log : List Logging.Record}
    (gathered : gatherSettings c w start o = .ok (chosen, log)) :
    ∃ path? file?, InEffect w start c.settingsFileName o.settings path? ∧
      Option.Rel (HoldsSettings w) path? file? ∧
      chosen = file?.map fun file => file.get (chosenSection c o) := by
  unfold gatherSettings at gathered
  split at gathered
  · cases gathered
  · next nowhere =>
      cases gathered
      exact ⟨none, none, locate_ok nowhere, .none, rfl⟩
  · next located there =>
      split at gathered
      · cases gathered
      · next file loaded =>
          split at gathered
          · cases gathered
          · cases gathered
            exact ⟨some located.path, some file, locate_ok there, .some (loadSettings_ok loaded),
              rfl⟩

theorem gatherNotes_ok
    {notes? : Option Release.Notes}
    (gathered : gatherNotes c w start o = .ok notes?) :
    ∃ path?, InEffect w start c.releaseNotesFileName o.releaseNotes path? ∧
      Option.Rel (HoldsNotes w) path? notes? := by
  unfold gatherNotes at gathered
  split at gathered
  · cases gathered
  · next nowhere =>
      cases gathered
      exact ⟨none, locate_ok nowhere, .none⟩
  · next located there =>
      split at gathered
      · cases gathered
      · next notes loaded =>
          cases gathered
          exact ⟨some located.path, locate_ok there, .some (loadNotes_ok loaded)⟩

/-- A failed search is reported. -/
theorem isReported_of_locate_error
    {given : Option Argument}
    {name : Text}
    {failure : Failure}
    (broken : locate w start given name = .error failure) :
    failure.isReported = true := by
  unfold locate at broken
  split at broken
  · cases broken
  · split at broken
    · cases broken
      rfl
    · cases broken

theorem gatherSettings_error_of_unavailable
    (unavailable : Unavailable w start o.settings c.settingsFileName fun located =>
      w.tree.loadSettings w.folder located.path located.shown) :
    ∃ failure, gatherSettings c w start o = .error failure := by
  rw [gatherSettings]
  cases unavailable with
  | search broken =>
      rw [broken]
      exact ⟨_, rfl⟩
  | file there unloaded =>
      simp only [there, unloaded]
      exact ⟨_, rfl⟩

theorem gatherSettings_error
    {failure : Failure}
    (failed : gatherSettings c w (searchStart w.folder o.template) o = .error failure) :
    failure.isReported = true ∧ Fault c w (.expand o) ∨ Mishap c w (.expand o) failure := by
  unfold gatherSettings at failed
  split at failed
  · next broken =>
      cases failed
      exact .inl ⟨isReported_of_locate_error broken, .settings (.search broken)⟩
  · cases failed
  · next there =>
      split at failed
      · next unloaded =>
          cases failed
          exact .inl ⟨rfl, .settings (.file there unloaded)⟩
      · next loaded =>
          split at failed
          · next given =>
              cases failed
              exact .inr (.sectionName given there loaded)
          · cases failed

theorem gatherNotes_error_of_unavailable
    (unavailable : Unavailable w start o.releaseNotes c.releaseNotesFileName fun located =>
      w.tree.loadNotes w.folder located.path) :
    ∃ failure, gatherNotes c w start o = .error failure := by
  rw [gatherNotes]
  cases unavailable with
  | search broken =>
      rw [broken]
      exact ⟨_, rfl⟩
  | file there unloaded =>
      simp only [there, unloaded]
      exact ⟨_, rfl⟩

theorem gatherNotes_error
    {failure : Failure}
    (failed : gatherNotes c w (searchStart w.folder o.template) o = .error failure) :
    failure.isReported = true ∧ Fault c w (.expand o) := by
  unfold gatherNotes at failed
  split at failed
  · next broken =>
      cases failed
      exact ⟨isReported_of_locate_error broken, .notes (.search broken)⟩
  · cases failed
  · next there =>
      split at failed
      · next unloaded =>
          cases failed
          exact ⟨rfl, .notes (.file there unloaded)⟩
      · cases failed

/-! ## Gathering -/

/-- What is gathered consists of definitions, settings and notes that were read. -/
theorem gather_ok
    {log : List Logging.Record}
    {s : Sources}
    (gathered : gather c w start o = (log, .ok s)) :
    readDefines o.defines = .ok s.defines ∧
      gatherSettings c w start o = .ok (s.settings, log) ∧
      gatherNotes c w start o = .ok s.notes ∧
      s.ignoreCase = (o.ignoreCase || c.ignoreCase) ∧
      s.environment = if o.noEnvironment then none else some w.environment := by
  unfold gather at gathered
  split at gathered
  · cases gathered
  · next defines =>
      split at gathered
      · cases gathered
      · next settings =>
          split at gathered
          · cases gathered
          · next notes =>
              cases gathered
              exact ⟨defines, settings, notes, rfl, rfl⟩

/-- Sources that cannot be had are reported for a fault, or nothing stands in the place of a text. -/
theorem gather_error
    {log : List Logging.Record}
    {failure : Failure}
    (failed : gather c w (searchStart w.folder o.template) o = (log, .error failure)) :
    failure.isReported = true ∧ Fault c w (.expand o) ∨ Mishap c w (.expand o) failure := by
  unfold gather at failed
  split at failed
  · next broken =>
      cases failed
      rcases readDefines_error broken with ⟨rfl, given⟩ | ⟨reported, define, given, malformed⟩
      · exact .inr (.definition given)
      · exact .inl ⟨reported, .definition given malformed⟩
  · split at failed
    · next broken =>
        cases failed
        exact gatherSettings_error broken
    · split at failed
      · next broken =>
          cases failed
          exact .inl (gatherNotes_error broken)
      · cases failed

end Command

end Stencil
