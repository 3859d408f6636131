import Stencil.Proofs.Service.Listing

/-!
Templates in which no name is known.  Their text is expanded to itself, so what `expand` writes is
the template as it was read, and reading turns every line end into a line feed.
-/
namespace Stencil.Command

open Placeholder Text

variable {c : Config} {w : World} {o : ExpandOptions} {text given : Text}
  {log : List Logging.Record} {sources : Sources}

/-! ## Delivery to a file -/

theorem deliver_of_writable
    (named : o.output = some (.word given))
    (nonempty : given ≠ [])
    (writable : w.tree.IsWritable w.folder (Path.ofText given))
    (said : List Logging.Record)
    (t : Text) :
    ∃ l, w.tree.locate w.folder (Path.ofText given) = .ok l ∧ w.tree.get? l ≠ some .folder ∧
      deliver w said o.output t =
        ⟨.returned 0, [], said, w.tree.put l (.file (Utf8.encode t)), []⟩ := by
  obtain ⟨l, located, plain, free⟩ := writable
  have stored : w.tree.write w.folder (Path.ofText given) (Utf8.encode t) =
      .ok (w.tree.put l (.file (Utf8.encode t))) := by
    rw [FileTree.write, FileTree.place_eq_ok_iff.2 ⟨located, plain, free⟩]
    rfl
  refine ⟨l, located, plain, ?_⟩
  cases given with
  | nil => exact absurd rfl nonempty
  | cons first rest => simp only [named, deliver, stored]

/-! ## Expansion -/

/-- Sources that know none of the names in a template, complete or not, hand it on as it was read. -/
theorem runExpand_of_unknown
    (gives : w.Gives o.template (Utf8.encode text))
    (gathered : gather c w (searchStart w.folder o.template) o = (log, .ok sources))
    (unknown : ∀ name ∈ namesIn text, (sources.resolver name ()).1 = none)
    (lenient : o.strict = false) :
    ∃ said, runExpand c w o = deliver w said o.output (unifyLineEnds text) := by
  have reported : (Expansion.report sources.resolver (unifyLineEnds text) ()).1 =
      ⟨unifyLineEnds text, unifyLineEnds text, [], namesIn (unifyLineEnds text)⟩ := by
    apply Expansion.report_of_unknown
    intro name member _
    rw [namesIn_unifyLineEnds] at member
    exact unknown name member
  simp only [runExpand, readInput_of_gives gives, gathered, reported, lenient]
  split
  · exact ⟨log, rfl⟩
  · exact ⟨_, rfl⟩

/-- Once there is a log, and if its file is not used after the template, a lenient run of `expand`
whose sources know none of the names in its template succeeds, writes the template to its output with
its line ends unified, and changes nothing else.  The output then holds the bytes of the template
just when no carriage return is in it. -/
theorem unknown_names_written_back
    {words : List Text}
    {i : Invocation}
    {tree : FileTree}
    {content : List UInt8}
    (invoked : readInvocation c words = .invocation i)
    (chosen : i.action = some (.expand o))
    (opened : Logging.openFile c w.tree w.folder = .ok tree)
    (leveled : Logging.levelFault? c i.debug w.hasLog = none)
    (gives : World.Gives { w with tree } o.template content)
    (valid : Utf8.decode content = .ok text)
    (gathered : gather c { w with tree } (searchStart w.folder o.template) o = (log, .ok sources))
    (unknown : ∀ name ∈ namesIn text, (sources.resolver name ()).1 = none)
    (lenient : o.strict = false)
    (named : o.output = some (.word given))
    (nonempty : given ≠ [])
    (writable : tree.IsWritable w.folder (Path.ofText given))
    (apart : ∀ p, UsedLater c { w with tree } o p → ∀ l, tree.locate w.folder p = .ok l →
      ¬ IsLog c w.folder l) :
    let outcome := run c w words
    outcome.IsSuccess ∧ outcome.stdout = [] ∧
      ∃ l, tree.locate w.folder (Path.ofText given) = .ok l ∧
        outcome.tree.locate w.folder (Path.ofText given) = .ok l ∧
        outcome.Leaves c w.folder l (some (.file (Utf8.encode (unifyLineEnds text)))) ∧
        (outcome.Leaves c w.folder l (some (.file content)) ↔ '\r' ∉ text) ∧
        ∀ other, other ≠ l → ¬ IsLog c w.folder other →
          outcome.Leaves c w.folder other (tree.get? other) := by
  intro outcome
  have bytes : Utf8.encode text = content := Utf8.decode_eq_ok_iff.1 valid
  rw [← bytes] at gives
  obtain ⟨said, ran⟩ := runExpand_of_unknown gives gathered unknown lenient
  obtain ⟨l, located, plain, delivered⟩ :=
    deliver_of_writable (w := { w with tree }) named nonempty writable said (unifyLineEnds text)
  have ends : outcome = ⟨.returned 0, [], said,
      tree.put l (.file (Utf8.encode (unifyLineEnds text))), []⟩ :=
    (run_of_opened invoked chosen opened leveled).trans (ran.trans delivered)
  have unlogged : ¬ IsLog c w.folder l := apart _ (.output named) l located
  have received : outcome.tree.get? l = some (.file (Utf8.encode (unifyLineEnds text))) := by
    rw [ends]
    exact FileTree.get?_put_self plain _
  rw [ends] at received ⊢
  refine ⟨⟨rfl, rfl⟩, rfl, l, located, FileTree.locate_put plain located,
    ⟨unlogged, received⟩, ?_, ?_⟩
  · have same : Utf8.encode (unifyLineEnds text) = content ↔ '\r' ∉ text := by
      rw [← bytes, Utf8.encode_inj, unifyLineEnds_eq_self_iff]
    rw [← same]
    constructor
    · intro kept
      exact Entry.file.inj (Option.some.inj (received.symm.trans kept.there))
    · rintro rfl
      exact ⟨unlogged, received⟩
  · exact fun other elsewhere free => ⟨free, FileTree.get?_put_of_ne elsewhere _⟩

/-- Options that write to a file next to the template, with nothing but definitions and the
environment for values. -/
def copyOptions (template : Text) (defines : List Argument) (noEnvironment : Bool) :
    ExpandOptions where
  template
  output := some (.word "copy".toList)
  defines
  settings := none
  sectionName := none
  releaseNotes := none
  ignoreCase := false
  noEnvironment
  strict := false

/-- A byte order mark, names of other letters, braces that belong to no placeholder and line ends of
other kinds are all written back. -/
theorem unknown_names_written_back_braces :
    let text : Text := "\uFEFF\x7bgröße\x7d\x7b\x7ba\x7d \x7b\x7d\x7d\u2028\t{b}\x0b\n\x7bc".toList
    let w : World := .fresh { entries := [(["braces".toList], .file (Utf8.encode text))] } [] []
      [("HOME".toList, "/".toList)]
    let words := ["expand", "braces", "-D", "c=1", "-o", "copy"].map String.toList
    (run .default w words).IsSuccess ∧
      (run .default w words).tree.get? ["copy".toList] = some (.file (Utf8.encode text)) ∧
      (run .default w words).tree.get? ["braces".toList] = some (.file (Utf8.encode text)) := by
  intro text w words
  let o := copyOptions "braces".toList [.word "c=1".toList] false
  let sources : Sources := {
    defines := [("c".toList, "1".toList)]
    settings := none
    notes := none
    reserved := w.reserved
    ignoreCase := false
    environment := some [("HOME".toList, "/".toList)] }
  have invoked : readInvocation .default words = .invocation ⟨false, some (.expand o)⟩ := by
    decide +kernel
  have gives : w.Gives o.template (Utf8.encode text) := by
    rw [World.Gives, if_neg (by decide)]
    rfl
  have gathered : gather .default w (searchStart w.folder o.template) o = ([], .ok sources) := by
    decide +kernel
  have unknown : ∀ name ∈ namesIn text, (sources.resolver name ()).1 = none := by
    decide +kernel
  have clean : '\r' ∉ text := by
    decide +kernel
  have place : w.tree.locate w.folder (Path.ofText "copy".toList) = .ok ["copy".toList] := by
    decide +kernel
  have leveled : Logging.levelFault? .default false false = none := by
    decide +kernel
  have unlogged : ∀ l, ¬ IsLog .default w.folder l := nofun
  obtain ⟨success, _, l, located, _, _, kept, others⟩ :=
    unknown_names_written_back (w := w) invoked rfl rfl leveled gives (Utf8.decode_encode text)
      gathered unknown rfl rfl (by decide) ⟨_, place, by decide, rfl⟩ fun _ _ l _ => unlogged l
  obtain rfl := Except.ok.inj (place.symm.trans located)
  exact ⟨success, (kept.2 clean).there, (others _ (by decide) (unlogged _)).there⟩

/-- Of a template without a placeholder, a line end of two characters is written back as one. -/
theorem carriageReturn_not_written_back :
    let text : Text := "a\r\n".toList
    let w : World := .fresh { entries := [(["lines".toList], .file (Utf8.encode text))] } [] [] []
    let words := ["expand", "lines", "-o", "copy", "--no-env"].map String.toList
    namesIn text = [] ∧
      (run .default w words).IsSuccess ∧
      (run .default w words).tree.read [] (Path.ofText "copy".toList) =
        .ok (Utf8.encode "a\n".toList) ∧
      Utf8.encode "a\n".toList ≠ Utf8.encode text := by
  intro text w words
  let o := copyOptions "lines".toList [] true
  have invoked : readInvocation .default words = .invocation ⟨false, some (.expand o)⟩ := by
    decide +kernel
  have leveled : Logging.levelFault? .default false false = none := by
    decide +kernel
  have nameless : namesIn text = [] := by
    decide +kernel
  have gives : w.Gives o.template (Utf8.encode text) := by
    rw [World.Gives, if_neg (by decide)]
    rfl
  have gathered : gather .default w (searchStart w.folder o.template) o =
      ([], .ok ⟨[], none, none, w.reserved, false, none⟩) := by
    decide +kernel
  have place : w.tree.locate w.folder (Path.ofText "copy".toList) = .ok ["copy".toList] := by
    decide +kernel
  have received : (w.tree.put ["copy".toList] (.file (Utf8.encode (unifyLineEnds text)))).read []
      (Path.ofText "copy".toList) = .ok (Utf8.encode "a\n".toList) := by
    decide +kernel
  obtain ⟨said, ran⟩ := runExpand_of_unknown gives gathered
    (fun name member => absurd member (nameless ▸ List.not_mem_nil)) rfl
  obtain ⟨l, located, _, delivered⟩ := deliver_of_writable (w := w) (o := o) rfl (by decide)
    ⟨_, place, by decide, rfl⟩ said (unifyLineEnds text)
  obtain rfl := Except.ok.inj (place.symm.trans located)
  rw [run_of_unlogged invoked rfl rfl leveled, Action.run, ran, delivered]
  exact ⟨nameless, ⟨rfl, rfl⟩, received, by decide⟩

end Stencil.Command
