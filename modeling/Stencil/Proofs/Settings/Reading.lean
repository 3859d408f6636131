import Stencil.Files.Load
import Stencil.Proofs.Settings.Histories
import Stencil.Proofs.Settings.Plain

/-!
Reading settings.  Lines without line feeds are always read: each of them is taken as its plain
form, and the file is the one of the history that these forms tell.
-/
namespace Stencil.Settings

open Text

variable {lines : List Text} {content : Text}

/-! ## What lines do to a file -/

/-- A file is read exactly when all its lines are, and then from what they say. -/
theorem Reading.read_eq_ok_iff {f : File} {r : Reading} :
    r.read lines = .ok f ↔
      ∃ said : List Line, lines.map Line.read? = said.map some ∧
        f = (said.foldl next r).file := by
  induction lines generalizing r with
  | nil =>
      constructor
      · rintro ⟨⟩
        exact ⟨[], rfl, rfl⟩
      · rintro ⟨said, nothing, rfl⟩
        rw [List.map_nil, eq_comm, List.map_eq_nil_iff] at nothing
        rw [nothing]
        rfl
  | cons line lines ih =>
      cases read : Line.read? line with
      | none =>
          refine iff_of_false (by simp [Reading.read, read]) ?_
          rintro ⟨_ | ⟨l, said⟩, parts, _⟩
          · cases parts
          · cases read.symm.trans (List.cons.inj parts).1
      | some l =>
          rw [Reading.read, read]
          refine ih.trans ⟨?_, ?_⟩
          · rintro ⟨said, others, rfl⟩
            exact ⟨l :: said, by rw [List.map_cons, read, others, List.map_cons], rfl⟩
          · rintro ⟨_ | ⟨other, said⟩, parts, rfl⟩
            · cases parts
            · obtain ⟨first, others⟩ := List.cons.inj parts
              cases read.symm.trans first
              exact ⟨said, others, rfl⟩

theorem map_read?_of_clean (clean : ∀ line ∈ lines, '\n' ∉ line) :
    lines.map Line.read? = (lines.map Line.plain).map some := by
  rw [List.map_map]
  exact List.map_congr_left fun line member => Line.read?_eq_plain (clean line member)

theorem Reading.read_eq_foldl
    (clean : ∀ line ∈ lines, '\n' ∉ line)
    (r : Reading) :
    r.read lines = .ok (lines.foldl (fun r line => r.next (.plain line)) r).file := by
  rw [read_eq_ok_iff]
  exact ⟨_, map_read?_of_clean clean, by rw [List.foldl_map]⟩

-- Both the history before and the open section are arbitrary: a header changes the second one, and
-- headers and entries make the first one longer.
theorem Reading.foldl_next_file (said : List Line) (h : History) (current : Text) :
    (said.foldl next ⟨h.file, current⟩).file = History.file (h ++ .ofLinesIn current said) := by
  induction said generalizing h current with
  | nil => simp [History.ofLinesIn]
  | cons line said ih =>
      cases line with
      | remark => exact ih h current
      | header name =>
          rw [List.foldl_cons, next, History.touch_file, ih, History.ofLinesIn, List.append_assoc]
          rfl
      | entry key value =>
          rw [List.foldl_cons, next, History.set_file, ih, History.ofLinesIn, List.append_assoc]
          rfl

theorem Reading.start_eq : start = ⟨History.file [.opened []], []⟩ :=
  congrArg (Reading.mk · []) (History.touch_file [] [])

namespace File

theorem ofLines_eq_ok_iff {f : File} :
    ofLines lines = .ok f ↔
      ∃ said : List Line, lines.map Line.read? = said.map some ∧
        f = (History.ofLines said).file := by
  rw [ofLines, Reading.read_eq_ok_iff, Reading.start_eq]
  simp only [Reading.foldl_next_file]
  rfl

theorem ofLines_eq_file (clean : ∀ line ∈ lines, '\n' ∉ line) :
    ofLines lines = .ok (History.ofLines (lines.map .plain)).file :=
  ofLines_eq_ok_iff.2 ⟨_, map_read?_of_clean clean, rfl⟩

theorem ofText_eq_file (content : Text) :
    ofText content = .ok (History.ofLines ((split '\n' content).map .plain)).file :=
  ofLines_eq_file fun _ => not_mem_of_mem_split

theorem ofFileText_eq_file (content : Text) :
    ofFileText content = .ok (History.ofLines ((splitLines content).map .plain)).file :=
  ofLines_eq_file fun _ => not_mem_of_mem_splitLines

end File

end Stencil.Settings

namespace Stencil.FileTree

open Settings Text

variable {tree : FileTree} {folder : Location} {p : Path}

theorem locate_of_read
    {bytes : List UInt8}
    (held : tree.read folder p = .ok bytes) :
    ∃ l, tree.locate folder p = .ok l ∧ tree.get? l = some (.file bytes) := by
  unfold read at held
  split at held
  · cases held
  · next l located =>
      split at held
      · cases held
      · next entry found =>
          split at held
          · cases held
          · split at held
            · cases held
              exact ⟨l, located, found⟩
            · cases held

theorem loadSettings_of_read
    {bytes : List UInt8}
    {content : Text}
    (name : Text)
    (held : tree.read folder p = .ok bytes)
    (decoded : Utf8.read bytes = .ok content) :
    tree.loadSettings folder p name =
      .ok (History.ofLines ((splitLines content).map .plain)).file := by
  obtain ⟨l, located, found⟩ := locate_of_read held
  have seen : tree.hidden? folder p = none := by
    rw [hidden?, located]
  have present : tree.isFile folder p := by
    rw [isFile, at?, located]
    simp only [found]
  have text : tree.loadText folder p = .ok content := by
    rw [loadText, held]
    simp only [decodeText, decoded, Except.mapError]
  rw [loadSettings, loadSettings?, seen]
  simp only [if_pos present, text, File.ofFileText_eq_file]

theorem loadText_ne_settings (e : Settings.Error) :
    tree.loadText folder p ≠ .error (.settings e) := by
  intro failed
  unfold loadText at failed
  split at failed
  · cases failed
  · next content _ =>
      rw [decodeText] at failed
      cases decoded : Utf8.read content with
      | error malformed =>
          rw [decoded] at failed
          cases failed
      | ok text =>
          rw [decoded] at failed
          cases failed

theorem loadSettings?_ne_settings (e : Settings.Error) :
    tree.loadSettings? folder p ≠ .error (.settings e) := by
  intro failed
  unfold loadSettings? at failed
  split at failed
  · cases failed
  · split at failed
    · split at failed
      · next notLoaded =>
          cases failed
          exact loadText_ne_settings e notLoaded
      · simp only [File.ofFileText_eq_file] at failed
        cases failed
    · cases failed

theorem loadSettings_ne_settings
    (name : Text)
    (e : Settings.Error) :
    tree.loadSettings folder p name ≠ .error (.settings e) := by
  intro failed
  unfold loadSettings at failed
  split at failed
  · next notLoaded =>
      cases failed
      exact loadSettings?_ne_settings e notLoaded
  · cases failed
  · cases failed

end Stencil.FileTree

namespace Stencil.Settings.File

open Text

/-- Lines without line feeds are read as their plain forms, one after the other, and a settings
file that is there and holds text is always read. -/
theorem lines_read_plainly
    (lines : List Text)
    (clean : ∀ line ∈ lines, '\n' ∉ line) :
    (∀ line ∈ lines, Line.match? line = some (.plain line)) ∧
      ofLines lines =
        .ok (lines.foldl (fun r line => r.next (.plain line)) Reading.start).file ∧
      ofLines lines = .ok (History.ofLines (lines.map .plain)).file ∧
      (∀ content, ∃ f, ofText content = .ok f) ∧
      (∀ content, ∃ f, ofFileText content = .ok f) ∧
      ∀ (tree : FileTree) (folder : Location) (p : Path) (name : Text) (e : Error),
        tree.loadSettings? folder p ≠ .error (.settings e) ∧
          tree.loadSettings folder p name ≠ .error (.settings e) := by
  refine ⟨?_, Reading.read_eq_foldl clean Reading.start, ofLines_eq_file clean,
    fun content => ⟨_, ofText_eq_file content⟩, fun content => ⟨_, ofFileText_eq_file content⟩, ?_⟩
  · intro line member
    rw [Line.match?_eq_read?, Line.read?_eq_plain (clean line member)]
  · intro tree folder p name e
    exact ⟨FileTree.loadSettings?_ne_settings e, FileTree.loadSettings_ne_settings name e⟩

theorem lines_read_plainly_brackets :
    let lines := ["; [no]".toList, "\u00a0k = a=b ".toList, "\t[ x]#[y ] ".toList,
      "[z] = \r".toList, "#".toList, "=".toList, "[]".toList, "k".toList, "k =".toList]
    (∀ line ∈ lines, '\n' ∉ line) ∧
      (∀ line ∈ lines, Line.match? line = some (.plain line)) ∧
      ofLines lines = .ok ⟨[
        ([], ⟨[], [("k".toList, some [])]⟩),
        ("x]#[y".toList, ⟨"x]#[y".toList, [("[z]".toList, some []), ([], some [])]⟩)]⟩ := by
  intro lines
  have clean : ∀ line ∈ lines, '\n' ∉ line := by decide +kernel
  obtain ⟨each, _, said, _⟩ := lines_read_plainly lines clean
  refine ⟨clean, each, ?_⟩
  rw [said]
  decide +kernel

end Stencil.Settings.File
