import Stencil.Proofs.Block.CommonIndent
import Stencil.Proofs.Command.Gathering
import Stencil.Proofs.Expansion.Refinement
import Stencil.Proofs.Files.Writing

/-!
How the commands end.  A run is refused for a fault and leaves nothing behind, or it has done its
work, and then there was no fault.
-/
namespace Stencil

open Text

/-! ## Faults of text blocks -/

namespace Block

theorem exists_expandTabs_error_iff {block : Text} {size : Int} :
    (∃ e, expandTabs block size = .error e) ↔ size < 1 := by
  rw [expandTabs]
  split <;> simp [*]

end Block

namespace Command

variable {c : Config} {w : World}

theorem isMisindented_iff {t : Text} :
    IsMisindented t ↔ ∃ line ∈ Block.inkedLines t, ¬ Block.commonIndent t <+: line := by
  simp only [IsMisindented, Block.inkedLines, List.mem_filter, Bool.not_eq_true',
    Bool.not_eq_true, and_assoc, and_comm]

/-! ## Reports -/

theorem isRefusal_failed
    {failure : Failure}
    (reported : failure.isReported = true)
    (w : World)
    (log : List Logging.Record) :
    (Outcome.failed w log failure).IsRefusal w := by
  rw [Outcome.failed, if_pos reported]
  exact ⟨⟨rfl, rfl, rfl⟩, rfl⟩

theorem isReported_of_readInput_error
    {name : Text}
    {failure : Failure}
    (unread : readInput w name = .error failure) :
    failure.isReported = true := by
  simp only [readInput] at unread
  cases loaded : if name = ['-'] then FileTree.decodeText w.input
    else w.tree.loadText w.folder (Path.ofText name) with
  | error e =>
      rw [loaded] at unread
      cases unread
      rfl
  | ok text =>
      rw [loaded] at unread
      cases unread

theorem isHalt_failed
    {action : Action}
    {failure : Failure}
    (mishap : Mishap c w action failure)
    (log : List Logging.Record) :
    (Outcome.failed w log failure).IsHalt w (.failure failure) := by
  cases mishap <;> exact ⟨⟨rfl, rfl, rfl⟩, rfl⟩

theorem printed_of_taken
    {text : Text}
    (taken : w.refusal? text = none)
    (log : List Logging.Record) :
    Outcome.printed w log text = ⟨.returned 0, text, log, w.tree, []⟩ := by
  rw [Outcome.printed, taken]

theorem isRefusal_printed
    {text reason : Text}
    (refused : w.refusal? text = some reason)
    (log : List Logging.Record) :
    (Outcome.printed w log text).IsRefusal w := by
  rw [Outcome.printed, refused]
  exact isRefusal_failed rfl w log

/-! ## Lines -/

theorem printedLines_append
    {before : List Text}
    (taken : ∀ t ∈ before, w.refusal? t = none)
    (rest : List Text) :
    Outcome.printedLines w (before ++ rest) =
      { Outcome.printedLines w rest with
        stdout :=
          (before.flatMap fun t => t ++ ['\n']) ++ (Outcome.printedLines w rest).stdout } := by
  induction before with
  | nil => rfl
  | cons t before ih =>
      obtain ⟨first, others⟩ := List.forall_mem_cons.1 taken
      rw [List.cons_append, Outcome.printedLines, first]
      simp only [ih others, List.flatMap_cons, List.append_assoc, List.cons_append, List.nil_append]

theorem printedLines_of_taken
    {texts : List Text}
    (taken : ∀ t ∈ texts, w.refusal? t = none) :
    Outcome.printedLines w texts =
      ⟨.returned 0, texts.flatMap fun t => t ++ ['\n'], [], w.tree, []⟩ := by
  have printed := printedLines_append taken []
  rw [List.append_nil] at printed
  rw [printed, Outcome.printedLines, List.append_nil]

theorem printedLines_of_refused
    {before after : List Text}
    {t reason : Text}
    (taken : ∀ earlier ∈ before, w.refusal? earlier = none)
    (refused : w.refusal? t = some reason) :
    Outcome.printedLines w (before ++ t :: after) =
      ⟨.returned 1, before.flatMap fun t => t ++ ['\n'], [⟨.error, reason⟩], w.tree, []⟩ := by
  have ended : Outcome.printedLines w (t :: after) =
      ⟨.returned 1, [], [⟨.error, reason⟩], w.tree, []⟩ := by
    rw [Outcome.printedLines, refused]
    rfl
  rw [printedLines_append taken, ended, List.append_nil]

/-- The standard output takes all texts, or there is a first one that it refuses. -/
theorem taken_or_refused (w : World) (texts : List Text) :
    (∀ t ∈ texts, w.refusal? t = none) ∨
      ∃ before t after reason, texts = before ++ t :: after ∧
        (∀ earlier ∈ before, w.refusal? earlier = none) ∧ w.refusal? t = some reason := by
  cases found : texts.find? fun t => (w.refusal? t).isSome with
  | none =>
      refine .inl fun t member => ?_
      simpa using List.find?_eq_none.1 found t member
  | some t =>
      obtain ⟨refused, before, after, parts, taken⟩ := List.find?_eq_some_iff_append.1 found
      obtain ⟨reason, known⟩ := Option.isSome_iff_exists.1 refused
      refine .inr ⟨before, t, after, reason, parts, fun earlier member => ?_, known⟩
      simpa using taken earlier member

/-! ## Delivery -/

/-- A text that is not delivered is kept back by the file that is to hold it, or by the standard
output. -/
theorem deliver_ends (w : World) (log : List Logging.Record) (output : Option Argument)
    (text : Text) :
    (deliver w log output text).IsRefusal w ∧
        ((∃ given, given ≠ [] ∧ output = some (.word given) ∧
          ¬ w.tree.IsWritable w.folder (Path.ofText given)) ∨
          NamesNothing output ∧ ∃ reason, w.refusal? text = some reason) ∨
      (deliver w log output text).IsSuccess ∧
        Delivered w output text (deliver w log output text) := by
  unfold deliver
  split
  · next first rest =>
      have nonempty : first :: rest ≠ [] := List.cons_ne_nil first rest
      cases stored : w.tree.write w.folder (Path.ofText (first :: rest)) (Utf8.encode text) with
      | error obstacle =>
          simp only [stored]
          exact .inl ⟨isRefusal_failed rfl w log, .inl ⟨first :: rest, nonempty, rfl,
            FileTree.exists_write_eq_error_iff.1 ⟨obstacle, stored⟩⟩⟩
      | ok tree =>
          simp only [stored]
          have received := FileTree.at?_write stored
          obtain ⟨l, place, plain, free, rfl⟩ := FileTree.write_ok stored
          refine .inr ⟨⟨rfl, rfl⟩, .stored nonempty rfl place plain free received ?_ rfl⟩
          exact fun other apart => FileTree.get?_put_of_ne apart _
  · next other =>
      have unnamed := namesNothing_of_not_word other
      cases shown : w.refusal? text with
      | some reason => exact .inl ⟨isRefusal_printed shown log, .inr ⟨unnamed, reason, rfl⟩⟩
      | none =>
          rw [printed_of_taken shown]
          exact .inr ⟨⟨rfl, rfl⟩, .printed unnamed shown rfl rfl⟩

/-! ## The commands -/

/-- Whatever has been said before, the text of a report is delivered or the output is at fault. -/
theorem deliver_report_ends
    {o : ExpandOptions}
    {template : Text}
    {log : List Logging.Record}
    {sources : Sources}
    (read : readInput w o.template = .ok template)
    (gathered : gather c w (searchStart w.folder o.template) o = (log, .ok sources))
    (complete : o.strict → (Expansion.report sources.resolver template ()).1.complete)
    (said : List Logging.Record) :
    Ending c w
      (deliver w said o.output (Expansion.report sources.resolver template ()).1.expanded)
      (.expand o) := by
  rcases deliver_ends w said o.output (Expansion.report sources.resolver template ()).1.expanded
    with ⟨refusal, ⟨given, nonempty, named, blocked⟩ | ⟨unnamed, reason, refused⟩⟩ |
      ⟨success, delivered⟩
  · exact .refused (.output nonempty named blocked) refusal
  · exact .refused (.unprintableText unnamed read gathered refused) refusal
  · exact .done (.expand read gathered complete delivered) success

theorem runExpand_ends (c : Config) (w : World) (o : ExpandOptions) :
    Ending c w (runExpand c w o) (.expand o) := by
  unfold runExpand
  cases read : readInput w o.template with
  | error failure =>
      exact .refused (.input rfl read) (isRefusal_failed (isReported_of_readInput_error read) w [])
  | ok template =>
      rcases gathered : gather c w (searchStart w.folder o.template) o with ⟨log, failure | sources⟩
      · rcases gather_error gathered with ⟨reported, fault⟩ | mishap
        · exact .refused fault (isRefusal_failed reported w log)
        · exact .brokenOff mishap (isHalt_failed mishap log)
      · simp only
        split
        · next complete => exact deliver_report_ends read gathered (fun _ => complete) _
        · next incomplete =>
            rw [Bool.not_eq_true] at incomplete
            split
            · next strict =>
                exact .refused (.unresolved strict read gathered incomplete)
                  ⟨⟨rfl, rfl, rfl⟩, rfl⟩
            · next lenient =>
                exact deliver_report_ends read gathered (fun strict => absurd strict lenient) _

theorem runNames_ends (c : Config) (w : World) (o : NamesOptions) :
    Ending c w (runNames w o) (.names o) := by
  unfold runNames
  cases read : readInput w o.template with
  | error failure =>
      exact .refused (.input rfl read) (isRefusal_failed (isReported_of_readInput_error read) w [])
  | ok template =>
      rcases taken_or_refused w (Placeholder.namesIn template) with
        taken | ⟨before, name, after, reason, parts, taken, refused⟩
      · simp only [printedLines_of_taken taken]
        exact .done (.names read taken rfl rfl) ⟨rfl, rfl⟩
      · simp only [parts, printedLines_of_refused taken refused]
        exact .cutShort (.names read parts taken refused rfl rfl rfl rfl)

theorem runReindent_ends (c : Config) (w : World) (o : ReindentOptions) :
    Ending c w (runReindent c w o) (.reindent o) := by
  unfold runReindent
  cases read : readInput w o.file with
  | error failure =>
      exact .refused (.input rfl read) (isRefusal_failed (isReported_of_readInput_error read) w [])
  | ok text =>
      cases tabless : spaced c o text with
      | error e =>
          rw [spaced] at tabless
          simp only [tabless]
          refine .refused ?_ (isRefusal_failed rfl w [])
          split at tabless
          · next expands => exact .tabs expands (Block.exists_expandTabs_error_iff.1 ⟨e, tabless⟩)
          · cases tabless
      | ok expanded =>
          have ran := tabless
          rw [spaced] at ran
          simp only [ran]
          cases reindented : Block.reindent o.indent.text expanded o.strict with
          | error e =>
              obtain ⟨strict, misindented⟩ := Block.exists_reindent_error_iff.1 ⟨e, reindented⟩
              exact .refused (.indent strict read tabless (isMisindented_iff.2 misindented))
                (isRefusal_failed rfl w [])
          | ok result =>
              cases shown : w.refusal? result with
              | some reason =>
                  exact .refused (.unprintableBlock read tabless reindented shown)
                    (isRefusal_printed shown [])
              | none =>
                  simp only [printed_of_taken shown]
                  exact .done (.reindent read tabless reindented shown rfl) ⟨rfl, rfl⟩

/-! ## Faults and work -/

section Faultless

variable {outcome : Outcome} {action : Action}

theorem Done.readInput_ok
    (done : Done c w outcome action)
    {name : Text}
    (reads : action.input? = some name) :
    ∃ text, readInput w name = .ok text := by
  cases done with
  | expand read => exact Option.some.inj reads ▸ ⟨_, read⟩
  | names read => exact Option.some.inj reads ▸ ⟨_, read⟩
  | reindent read => exact Option.some.inj reads ▸ ⟨_, read⟩

/-- A command that has done its work had no fault. -/
theorem Done.faultless (done : Done c w outcome action) : ¬ Fault c w action := by
  intro fault
  cases fault with
  | input reads unread =>
      obtain ⟨text, read⟩ := done.readInput_ok reads
      rw [read] at unread
      cases unread
  | definition given malformed =>
      cases done with
      | expand _ gathered =>
          obtain ⟨failure, failed⟩ := readDefines_error_of_malformed given malformed
          rw [(gather_ok gathered).1] at failed
          cases failed
  | settings unavailable =>
      cases done with
      | expand _ gathered =>
          obtain ⟨failure, failed⟩ := gatherSettings_error_of_unavailable unavailable
          rw [(gather_ok gathered).2.1] at failed
          cases failed
  | notes unavailable =>
      cases done with
      | expand _ gathered =>
          obtain ⟨failure, failed⟩ := gatherNotes_error_of_unavailable unavailable
          rw [(gather_ok gathered).2.2.1] at failed
          cases failed
  | unresolved strict read gathered incomplete =>
      cases done with
      | expand readBefore gatheredBefore complete =>
          cases readBefore.symm.trans read
          cases gatheredBefore.symm.trans gathered
          rw [complete strict] at incomplete
          cases incomplete
  | output nonempty named blocked =>
      cases done with
      | expand _ _ _ delivered =>
          cases delivered with
          | printed unnamed => exact nonempty (unnamed _ named)
          | stored _ other place plain free =>
              cases named.symm.trans other
              exact blocked ⟨_, place, plain, free⟩
  | unprintableText unnamed read gathered refused =>
      cases done with
      | expand readBefore gatheredBefore _ delivered =>
          cases readBefore.symm.trans read
          cases gatheredBefore.symm.trans gathered
          cases delivered with
          | printed _ taken => exact nomatch taken.symm.trans refused
          | stored nonempty named => exact nonempty (unnamed _ named)
  | unprintableName read listed refused =>
      cases done with
      | names readBefore taken =>
          cases readBefore.symm.trans read
          exact nomatch (taken _ listed).symm.trans refused
  | tabs expands size =>
      cases done with
      | reindent _ tabless =>
          rw [spaced, if_pos expands] at tabless
          obtain ⟨e, failed⟩ := Block.exists_expandTabs_error_iff.2 size
          rw [failed] at tabless
          cases tabless
  | indent strict read tabless misindented =>
      cases done with
      | reindent readBefore tablessBefore reindented =>
          cases readBefore.symm.trans read
          cases tablessBefore.symm.trans tabless
          obtain ⟨e, failed⟩ := Block.exists_reindent_error_iff.2
            ⟨strict, isMisindented_iff.1 misindented⟩
          rw [failed] at reindented
          cases reindented
  | unprintableBlock read tabless reindented refused =>
      cases done with
      | reindent readBefore tablessBefore reindentedBefore taken =>
          cases readBefore.symm.trans read
          cases tablessBefore.symm.trans tabless
          cases reindentedBefore.symm.trans reindented
          exact nomatch taken.symm.trans refused

end Faultless

/-! ## Runs -/

/-- A command line that asks for a command runs just this command once there is a log. -/
theorem run_of_opened
    {words : List Text}
    {i : Invocation}
    {action : Action}
    {tree : FileTree}
    (invoked : readInvocation c words = .invocation i)
    (chosen : i.action = some action)
    (opened : Logging.openFile c w.tree w.folder = .ok tree)
    (leveled : Logging.levelFault? c i.debug w.hasLog = none) :
    run c w words = action.run c { w with tree } := by
  rw [run, invoked]
  simp only [opened, leveled, chosen]

theorem openFile_of_unlogged
    (unlogged : Logging.file? c = none) :
    Logging.openFile c w.tree w.folder = .ok w.tree := by
  rw [Logging.openFile, unlogged]

theorem run_of_unlogged
    {words : List Text}
    {i : Invocation}
    {action : Action}
    (invoked : readInvocation c words = .invocation i)
    (chosen : i.action = some action)
    (unlogged : Logging.file? c = none)
    (leveled : Logging.levelFault? c i.debug w.hasLog = none) :
    run c w words = action.run c w :=
  run_of_opened invoked chosen (openFile_of_unlogged unlogged) leveled

/-- A run of `expand`, `names` or `reindent` without a log file is broken off before its command when
the level of the log cannot be set.  Otherwise it is refused for a fault and leaves nothing behind,
or names are printed up to one that cannot be printed, or it has done its work, and then there was no
fault; only an option that was left with nothing breaks it off, and then it leaves nothing behind. -/
theorem run_undone_or_done
    {words : List Text}
    {i : Invocation}
    {action : Action}
    (invoked : readInvocation c words = .invocation i)
    (chosen : i.action = some action)
    (command : ∀ o, action ≠ .serve o)
    (unlogged : Logging.file? c = none) :
    (∀ e, Logging.levelFault? c i.debug w.hasLog = some e →
      (run c w words).IsHalt w (.logLevel e)) ∧
    (Logging.levelFault? c i.debug w.hasLog = none →
      Ending c w (run c w words) action ∧
        ((run c w words).exit = .returned 0 → ¬ Fault c w action)) := by
  constructor
  · intro e failed
    rw [run, invoked]
    simp only [openFile_of_unlogged unlogged, failed]
    exact ⟨⟨rfl, rfl, rfl⟩, rfl⟩
  · intro leveled
    rw [run_of_unlogged invoked chosen unlogged leveled]
    have ending : Ending c w (action.run c w) action := by
      cases action with
      | expand o => exact runExpand_ends c w o
      | names o => exact runNames_ends c w o
      | reindent o => exact runReindent_ends c w o
      | serve o => exact absurd rfl (command o)
    refine ⟨ending, fun exit => ?_⟩
    cases ending with
    | brokenOff _ halt => exact nomatch exit.symm.trans halt.exit
    | refused _ refusal => exact nomatch exit.symm.trans refusal.exit
    | cutShort cut =>
        cases cut with
        | names _ _ _ _ cutExit => exact nomatch exit.symm.trans cutExit
    | done work => exact work.faultless

/-! A template with a name that no source knows: it is refused when it has to be complete, and
otherwise it goes to a file that is reached by a detour.  Its names are printed up to one with other
letters than the standard output takes. -/

def letterTemplate : Text :=
  "Dear {who},\n{größe}\n".toList

def letterWorld : World :=
  .fresh {
    entries := [(["letter".toList], .file (Utf8.encode letterTemplate)),
      (["out".toList], .folder), (["out".toList, "letter".toList], .file [])] } [] [] []

def asciiWorld : World where
  __ := letterWorld
  refusal? t :=
    if t.all fun c => c.toNat < 128 then none
    else some "ordinal not in range(128)".toList

def letterWords : List Text :=
  ["expand", "letter", "-D", "who=you", "-o", "out/../out/letter"].map String.toList

def nameWords : List Text :=
  ["names", "letter"].map String.toList

def letterOptions (strict : Bool) : ExpandOptions where
  template := "letter".toList
  output := some (.word "out/../out/letter".toList)
  defines := [.word "who=you".toList]
  settings := none
  sectionName := none
  releaseNotes := none
  ignoreCase := false
  noEnvironment := false
  strict := strict

def letterSources : Sources where
  defines := [("who".toList, "you".toList)]
  settings := none
  notes := none
  reserved := letterWorld.reserved
  ignoreCase := false
  environment := some []

theorem not_mishap_letter
    {strict : Bool}
    {failure : Failure} :
    ¬ Mishap .default letterWorld (.expand (letterOptions strict)) failure := by
  intro mishap
  cases mishap with
  | definition given => cases List.mem_singleton.1 given
  | sectionName given => cases given

theorem run_undone_or_done_letter :
    ((run .default letterWorld (letterWords ++ ["--strict".toList])).IsRefusal letterWorld ∧
      Fault .default letterWorld (.expand (letterOptions true))) ∧
    ((run .default letterWorld letterWords).IsSuccess ∧
      Done .default letterWorld (run .default letterWorld letterWords)
        (.expand (letterOptions false))) ∧
    CutShort asciiWorld (run .default asciiWorld nameWords) (.names ⟨"letter".toList⟩) := by
  have read : ∀ strict, readInput letterWorld (letterOptions strict).template =
      .ok letterTemplate := by decide +kernel
  have gathered : ∀ strict, gather .default letterWorld
      (searchStart letterWorld.folder (letterOptions strict).template) (letterOptions strict) =
        ([], .ok letterSources) := by decide +kernel
  have incomplete :
      (Expansion.report letterSources.resolver letterTemplate ()).1.complete = false := by
    simp only [Expansion.report, Expansion.expand_eq_expandLevels]
    decide +kernel
  have invokedStrict : readInvocation .default (letterWords ++ ["--strict".toList]) =
      .invocation ⟨false, some (.expand (letterOptions true))⟩ := by decide +kernel
  have invoked : readInvocation .default letterWords =
      .invocation ⟨false, some (.expand (letterOptions false))⟩ := by decide +kernel
  have invokedNames : readInvocation .default nameWords =
      .invocation ⟨false, some (.names ⟨"letter".toList⟩)⟩ := by decide +kernel
  have leveled : Logging.levelFault? .default false false = none := by decide +kernel
  refine ⟨?_, ?_, ?_⟩
  · have fault : Fault .default letterWorld (.expand (letterOptions true)) :=
      .unresolved rfl (read true) (gathered true) incomplete
    have ends := run_undone_or_done (w := letterWorld) invokedStrict rfl nofun rfl
    cases (ends.2 leveled).1 with
    | brokenOff mishap => exact absurd mishap not_mishap_letter
    | refused _ refusal => exact ⟨refusal, fault⟩
    | cutShort cut => cases cut
    | done work => exact absurd fault work.faultless
  · have exit : (run .default letterWorld letterWords).exit = .returned 0 := by
      have delivered : ∀ log text, (deliver letterWorld log
          (letterOptions false).output text).exit = .returned 0 := fun _ _ => rfl
      rw [run_of_unlogged invoked rfl rfl leveled, Action.run]
      simp only [runExpand, read, gathered, incomplete]
      exact delivered _ _
    have ends := run_undone_or_done (w := letterWorld) invoked rfl nofun rfl
    cases (ends.2 leveled).1 with
    | brokenOff mishap => exact absurd mishap not_mishap_letter
    | refused _ refusal => exact nomatch exit.symm.trans refusal.exit
    | cutShort cut => cases cut
    | done work success => exact ⟨success, work⟩
  · have exit : (run .default asciiWorld nameWords).exit = .returned 1 := by decide +kernel
    have stdout : (run .default asciiWorld nameWords).stdout = "who\n".toList := by decide +kernel
    have ends := run_undone_or_done (w := asciiWorld) invokedNames rfl nofun rfl
    cases (ends.2 leveled).1 with
    | brokenOff mishap => cases mishap
    | refused _ refusal => exact nomatch stdout.symm.trans refusal.stdout
    | cutShort cut => exact cut
    | done _ success => exact nomatch exit.symm.trans success.exit

/-- Names that a level stands among, but that are none, break a run off which is fine with the level
that is set when there is no such name; and names are printed before the failure is reported. -/
theorem basicFormat_breaks_off :
    let c : Config := { Config.default with logLevel := "basic_format".toList }
    let unknown : Config := { Config.default with logLevel := "basic".toList }
    (run c letterWorld nameWords).exit = .halted (.logLevel (.unknownLevel Logging.basicFormat)) ∧
      (run unknown letterWorld nameWords).exit = .returned 0 ∧
      (run .default asciiWorld nameWords).exit = .returned 1 ∧
      (run .default asciiWorld nameWords).stdout = "who\n".toList := by
  decide +kernel

end Command

end Stencil
