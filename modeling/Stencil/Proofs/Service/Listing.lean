import Stencil.Proofs.Command.Outcomes
import Stencil.Proofs.Expansion.Reporting
import Stencil.Proofs.Placeholder.Tidy
import Stencil.Proofs.Service.Normalization
import Stencil.Proofs.Text.Utf8

/-!
Listing and expanding find the same placeholders.  An expansion in which no name is known leaves its
template as it is and asks for the names that are listed, so the list of the service, the lines that
the command prints and the names that an expansion without values leaves are one list.
-/
namespace Stencil

open Placeholder Text

/-! ## Listed names -/

theorem names_occurrencesFrom (position : Nat) (cuts : List Cut) :
    (occurrencesFrom position cuts).map Occurrence.name = cuts.map Cut.name := by
  induction cuts generalizing position with
  | nil => rfl
  | cons cut cuts ih => simp [occurrencesFrom, ih]

theorem names_occurrences (t : Text) :
    (occurrences t).map Occurrence.name = (Template.scan t).names :=
  names_occurrencesFrom 0 _

theorem isRoll_namesIn (t : Text) :
    IsRoll (namesIn t) ((occurrences t).map Occurrence.name) := by
  rw [names_occurrences]
  exact isRoll_distinct _

theorem asked_of_silent
    {σ : Type}
    {ask : Resolver σ}
    (silent : ∀ name state, (ask name state).1 = none)
    (template : Text)
    (state : σ) :
    Expansion.asked ask template state = (occurrences template).map Occurrence.name := by
  obtain ⟨_, notes⟩ := Expansion.expand_of_silent silent template state
  rw [Expansion.asked_eq_replies, notes, names_occurrences, List.map_map]
  exact List.map_id _

theorem names_scan_seam
    {c : Char}
    (ends : c = '\n' ∨ c = '\r')
    (a rest : Text) :
    (Template.scan (a ++ c :: rest)).names =
      (Template.scan a).names ++ (Template.scan rest).names := by
  obtain ⟨other, notClosing, notOpening⟩ : isNameChar c = false ∧ c ≠ '}' ∧ c ≠ '{' := by
    rcases ends with rfl | rfl <;> decide
  have literal : Template.IsLiteral c rest := fun brace => absurd brace notOpening
  rw [Template.scan_append a rest other notClosing, Template.scan_cons literal,
    Template.names_append, Template.names_cons]

-- The induction takes one character after the other, so it carries the line that has begun.
theorem names_scan_unifyLineEnds (t a : Text) :
    (Template.scan (a ++ unifyLineEnds t)).names = (Template.scan (a ++ t)).names := by
  fun_induction unifyLineEnds t generalizing a with
  | case1 => rfl
  | case2 cs ih =>
      have next : (Template.scan (unifyLineEnds cs)).names = (Template.scan cs).names := ih []
      have feed : (Template.scan ('\n' :: cs)).names = (Template.scan cs).names :=
        names_scan_seam (.inl rfl) [] cs
      rw [names_scan_seam (.inl rfl), names_scan_seam (.inr rfl), next, feed]
  | case3 c cs _ ih =>
      by_cases ends : c = '\r'
      · have next : (Template.scan (unifyLineEnds cs)).names = (Template.scan cs).names := ih []
        rw [if_pos ends, names_scan_seam (.inl rfl), names_scan_seam (.inr ends), next]
      · rw [if_neg ends, List.append_cons, ih, ← List.append_cons]

theorem namesIn_unifyLineEnds (t : Text) : namesIn (unifyLineEnds t) = namesIn t :=
  congrArg distinct (names_scan_unifyLineEnds t [])

theorem isName_of_mem_namesIn
    {t name : Text}
    (member : name ∈ namesIn t) :
    isName name :=
  Template.isName_of_mem_names (mem_distinct.1 member)

theorem lines_flatMap_feed
    {texts : List Text}
    (clean : ∀ t ∈ texts, '\n' ∉ t) :
    Block.lines (texts.flatMap fun t => t ++ ['\n']) = texts.map (· ++ ['\n']) := by
  induction texts with
  | nil => rfl
  | cons t texts ih =>
      obtain ⟨first, others⟩ := List.forall_mem_cons.1 clean
      rw [List.flatMap_cons, List.append_assoc, List.singleton_append,
        Block.lines_append_feed first, ih others, List.map_cons]

/-- Names printed one on each line are found again as the lines. -/
theorem lines_namesIn (t : Text) :
    Block.lines ((namesIn t).flatMap fun name => name ++ ['\n']) =
      (namesIn t).map (· ++ ['\n']) :=
  lines_flatMap_feed fun _ member =>
    not_mem_of_isName (isName_of_mem_namesIn member) isNameChar_lineFeed

/-! ## The command -/

namespace Command

/-- The bytes of the file of a name, or of the standard input when the name is a hyphen. -/
def World.Gives (w : World) (name : Text) (content : List UInt8) : Prop :=
  if name = ['-'] then w.input = content
  else w.tree.read w.folder (Path.ofText name) = .ok content

theorem readInput_of_gives
    {w : World}
    {name text : Text}
    (gives : w.Gives name (Utf8.encode text)) :
    readInput w name = .ok (unifyLineEnds text) := by
  have decoded : FileTree.decodeText (Utf8.encode text) = .ok (unifyLineEnds text) := by
    rw [FileTree.decodeText, Utf8.read, Utf8.decode_encode]
    rfl
  rw [World.Gives] at gives
  rw [readInput]
  split at gives
  · next hyphen => rw [if_pos hyphen, gives, decoded]; rfl
  · next file => rw [if_neg file, FileTree.loadText, gives]; simp only [decoded]; rfl

theorem runNames_of_gives
    {w : World}
    {o : NamesOptions}
    {template : Text}
    (gives : w.Gives o.template (Utf8.encode template))
    (taken : ∀ name ∈ namesIn template, w.refusal? name = none) :
    runNames w o =
      ⟨.returned 0, (namesIn template).flatMap fun name => name ++ ['\n'], [], w.tree, []⟩ := by
  simp only [runNames, readInput_of_gives gives, namesIn_unifyLineEnds, printedLines_of_taken taken]

end Command

/-! ## The service -/

namespace Service

theorem ofOptions_silent
    {values : Table (Option Text)}
    (empty : ∀ e ∈ values, e.2 = none)
    (name : Text)
    (state : Unit) :
    (Resolver.ofOptions values name state).1 = none := by
  show (values.get? name).join = none
  cases found : values.get? name with
  | none => rfl
  | some value =>
      obtain ⟨e, first, rfl⟩ := Option.map_eq_some_iff.1 found
      exact empty e (List.mem_of_find?_eq_some first)

theorem expand_of_empty
    {values : Table (Option Text)}
    (empty : ∀ e ∈ values, e.2 = none)
    (template : Text) :
    expand template values = object [
      ("expanded", .text template),
      ("resolved", textArray []),
      ("unresolved", textArray (namesIn template)),
      ("complete", .flag (namesIn template).isEmpty)] := by
  have reported := Expansion.report_of_silent (ofOptions_silent empty) template ()
  simp only [expand, reported, Expansion.Report.complete]

/-- A resolver that knows no name leaves every template as it is, is asked for the names of its
placeholders in order, and is reported on with the names that are listed, each once and in the order
in which they first appear.  The service lists the same names, and leaves them when it expands the
template without values, and the command prints them, one on each line, if the standard output takes
them. -/
theorem listed_as_left
    {σ : Type}
    {ask : Resolver σ}
    (silent : ∀ name state, (ask name state).1 = none)
    (template : Text)
    (state : σ) :
    let places := occurrences template
    let names := namesIn template
    let printed := names.flatMap fun name => name ++ ['\n']
    let listed := object [
      ("macros", .array (places.map occurrenceJson)),
      ("names", textArray names)]
    let left := object [
      ("expanded", .text template),
      ("resolved", textArray []),
      ("unresolved", textArray names),
      ("complete", .flag names.isEmpty)]
    (Expansion.expand ask template state).1 = template ∧
      Expansion.asked ask template state = places.map Occurrence.name ∧
      (Expansion.report ask template state).1 = ⟨template, template, [], names⟩ ∧
      IsRoll names (places.map Occurrence.name) ∧
      list template = listed ∧
      (∀ values, (∀ e ∈ values, e.2 = none) → expand template values = left) ∧
      (∀ (Request Response : Type) (f : Framework Request Response) (c : Config) (r : Request),
        (f.read r = .ok (.list template) → f.serve c r = f.reply listed) ∧
        ∀ values, f.read r = .ok (.expand template values) → (∀ e ∈ values, e.2 = none) →
          f.serve c r = f.reply left) ∧
      Block.lines printed = names.map (· ++ ['\n']) ∧
      (∀ (w : Command.World) (o : Command.NamesOptions),
        w.Gives o.template (Utf8.encode template) → (∀ name ∈ names, w.refusal? name = none) →
          Command.runNames w o = ⟨.returned 0, printed, [], w.tree, []⟩) ∧
      ∀ (c : Config) (w : Command.World) (words : List Text) (i : Command.Invocation)
        (o : Command.NamesOptions) (tree : FileTree),
        Command.readInvocation c words = .invocation i → i.action = some (.names o) →
        Logging.openFile c w.tree w.folder = .ok tree →
        Logging.levelFault? c i.debug w.hasLog = none →
        Command.World.Gives { w with tree } o.template (Utf8.encode template) →
        (∀ name ∈ names, w.refusal? name = none) →
          Command.run c w words = ⟨.returned 0, printed, [], tree, []⟩ := by
  intro places names printed listed left
  have unfilled : ∀ values, (∀ e ∈ values, e.2 = none) → expand template values = left :=
    fun values empty => expand_of_empty empty template
  refine ⟨(Expansion.expand_of_silent silent template state).1,
    asked_of_silent silent template state, Expansion.report_of_silent silent template state,
    isRoll_namesIn template, rfl, unfilled, fun Request Response f c r => ⟨fun asked => ?_, ?_⟩,
    lines_namesIn template, fun w o gives taken => Command.runNames_of_gives gives taken,
    fun c w words i o tree invoked chosen opened leveled gives taken => ?_⟩
  · exact Framework.serve_of_ok asked rfl
  · intro values asked empty
    exact Framework.serve_of_ok asked (congrArg Except.ok (unfilled values empty))
  · rw [Command.run_of_opened invoked chosen opened leveled]
    exact Command.runNames_of_gives gives taken

/-- Braces that belong to no placeholder, next to some that do, and a line end of two characters. -/
theorem listed_as_left_braces :
    let template := "\x7b{a}\x7d{b}\x7b\x7d{a}\r\n{c d}\x7b".toList
    let names := ["a".toList, "b".toList]
    let counting : Resolver Nat := fun _ count => (none, count + 1)
    let w : Command.World :=
      .fresh { entries := [(["braces".toList], .file (Utf8.encode template))] } [] [] []
    (Expansion.expand counting template 0).1 = template ∧
      Expansion.asked counting template 0 = ["a".toList, "b".toList, "a".toList] ∧
      (∃ macros, answer .default ⟨"POST".toList, "/api/templates/parse".toList,
          .value (object [("template", .text template)])⟩ =
        .ok (.reply 200 (object [("macros", macros), ("names", textArray names)]))) ∧
      answer .default ⟨"POST".toList, "/api/templates/expand".toList,
          .value (object [("template", .text template), ("values", object [("a", .null)])])⟩ =
        .ok (.reply 200 (object [
          ("expanded", .text template),
          ("resolved", textArray []),
          ("unresolved", textArray names),
          ("complete", .flag false)])) ∧
      (Command.run .default w ["names".toList, "braces".toList]).stdout = "a\nb\n".toList := by
  intro template names counting w
  have silent : ∀ name count, (counting name count).1 = none := fun _ _ => rfl
  have places : (occurrences template).map Occurrence.name =
      ["a".toList, "b".toList, "a".toList] := by decide +kernel
  have found : namesIn template = names := by decide +kernel
  have listPath : Target.route? ⟨[], [], "/api/templates/parse".toList⟩ = some (.task .list) := by
    decide +kernel
  have expandPath : Target.route? ⟨[], [], "/api/templates/expand".toList⟩ =
      some (.task .expand) := by decide +kernel
  have lists : Task.list.check [("template".toList, .text template)] = .ok (.list template) := rfl
  have expands : Task.expand.check [("template".toList, .text template),
      ("values".toList, .object [("a".toList, .null)])] =
        .ok (.expand template [("a".toList, none)]) := rfl
  obtain ⟨text, asked, _, _, _, _, served, _, _, runs⟩ := listed_as_left silent template 0
  rw [places] at asked
  rw [found] at served runs
  have invoked : Command.readInvocation .default ["names".toList, "braces".toList] =
      .invocation ⟨false, some (.names ⟨"braces".toList⟩)⟩ := by decide +kernel
  have gives : w.Gives "braces".toList (Utf8.encode template) := by
    rw [Command.World.Gives, if_neg (by decide)]
    rfl
  have leveled : Logging.levelFault? .default false false = none := by decide +kernel
  have ran := runs .default w _ _ ⟨"braces".toList⟩ w.tree invoked rfl rfl leveled gives
    fun _ _ => rfl
  have listing : framework.read ⟨"POST".toList, "/api/templates/parse".toList, _⟩ = _ :=
    (read_post (by rfl) listPath _).trans (read_of_check lists)
  have filling : framework.read ⟨"POST".toList, "/api/templates/expand".toList, _⟩ = _ :=
    (read_post (by rfl) expandPath _).trans (read_of_check expands)
  refine ⟨text, asked, ⟨_, (served _ _ framework .default _).1 listing⟩,
    (served _ _ framework .default _).2 _ filling (by decide), ?_⟩
  rw [ran]
  rfl

end Service

end Stencil
