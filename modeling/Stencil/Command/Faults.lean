import Stencil.Command.Priority

/-!
How runs of the commands end: the faults for which a command is refused, the mishaps that break it
off, and what a command that has done its work leaves behind.
-/
namespace Stencil.Command

open Text

/-! ## Faults -/

/-- A definition without an equals sign, or without a name before it. -/
def IsMalformed (define : Text) : Prop :=
  '=' ∉ define ∨ definedName define = []

instance (define : Text) : Decidable (IsMalformed define) :=
  inferInstanceAs (Decidable (_ ∨ _))

/-- A file cannot be had: the search for it is broken off, or the file in effect cannot be
loaded. -/
inductive Unavailable {α : Type} (w : World) (start : Location) (given : Option Argument)
    (name : Text) (load : Located → Except LoadError α) : Prop
  | search {failure : Failure} (broken : locate w start given name = .error failure)
  | file {located : Located} {e : LoadError}
      (there : locate w start given name = .ok (some located)) (unloaded : load located = .error e)

/-- A line with ink does not start with the common indent of its text. -/
def IsMisindented (t : Text) : Prop :=
  ∃ line ∈ Block.lines t, ¬ Block.commonIndent t <+: line ∧ ¬ Block.isBlankLine line

/-- The name of the text that a command works on. -/
def Action.input? : Action → Option Text
  | .expand o => some o.template
  | .names o => some o.template
  | .reindent o => some o.file
  | .serve _ => none

/-- The text of a command after its tabs are expanded, if they are to be. -/
def spaced (c : Config) (o : ReindentOptions) (t : Text) : Except Block.Error Text :=
  if o.tabs then Block.expandTabs t c.tabSize else .ok t

/-- Why a command cannot do its work. -/
inductive Fault (c : Config) (w : World) : Action → Prop
  | input {action : Action} {name : Text} {failure : Failure} (reads : action.input? = some name)
      (unread : readInput w name = .error failure) : Fault c w action
  | definition {o : ExpandOptions} {define : Text} (given : .word define ∈ o.defines)
      (malformed : IsMalformed define) : Fault c w (.expand o)
  | settings {o : ExpandOptions}
      (unavailable : Unavailable w (searchStart w.folder o.template) o.settings
        c.settingsFileName fun located =>
          w.tree.loadSettings w.folder located.path located.shown) : Fault c w (.expand o)
  | notes {o : ExpandOptions}
      (unavailable : Unavailable w (searchStart w.folder o.template) o.releaseNotes
        c.releaseNotesFileName fun located => w.tree.loadNotes w.folder located.path) :
      Fault c w (.expand o)
  | unresolved {o : ExpandOptions} {template : Text} {log : List Logging.Record}
      {sources : Sources} (strict : o.strict) (read : readInput w o.template = .ok template)
      (gathered : gather c w (searchStart w.folder o.template) o = (log, .ok sources))
      (incomplete : (Expansion.report sources.resolver template ()).1.complete = false) :
      Fault c w (.expand o)
  | output {o : ExpandOptions} {given : Text} (nonempty : given ≠ [])
      (named : o.output = some (.word given))
      (blocked : ¬ w.tree.IsWritable w.folder (Path.ofText given)) : Fault c w (.expand o)
  | unprintableText {o : ExpandOptions} {template reason : Text} {log : List Logging.Record}
      {sources : Sources} (unnamed : NamesNothing o.output)
      (read : readInput w o.template = .ok template)
      (gathered : gather c w (searchStart w.folder o.template) o = (log, .ok sources))
      (refused : w.refusal? (Expansion.report sources.resolver template ()).1.expanded =
        some reason) : Fault c w (.expand o)
  | unprintableName {o : NamesOptions} {template name reason : Text}
      (read : readInput w o.template = .ok template) (listed : name ∈ Placeholder.namesIn template)
      (refused : w.refusal? name = some reason) : Fault c w (.names o)
  | tabs {o : ReindentOptions} (expands : o.tabs) (size : c.tabSize < 1) : Fault c w (.reindent o)
  | indent {o : ReindentOptions} {text expanded : Text} (strict : o.strict)
      (read : readInput w o.file = .ok text) (tabless : spaced c o text = .ok expanded)
      (misindented : IsMisindented expanded) : Fault c w (.reindent o)
  | unprintableBlock {o : ReindentOptions} {text expanded result reason : Text}
      (read : readInput w o.file = .ok text) (tabless : spaced c o text = .ok expanded)
      (reindented : Block.reindent o.indent.text expanded o.strict = .ok result)
      (refused : w.refusal? result = some reason) : Fault c w (.reindent o)

/-- What a command does not report: an option was left with nothing where its text is needed. -/
inductive Mishap (c : Config) (w : World) : Action → Failure → Prop
  | definition {o : ExpandOptions} (given : .nothing ∈ o.defines) :
      Mishap c w (.expand o) .noDefinition
  | sectionName {o : ExpandOptions} {located : Located} {file : Settings.File}
      (given : o.sectionName = some .nothing)
      (there : locate w (searchStart w.folder o.template) o.settings c.settingsFileName =
        .ok (some located))
      (loaded : w.tree.loadSettings w.folder located.path located.shown = .ok file) :
      Mishap c w (.expand o) .noSection

/-! ## Results -/

/-- A run that leaves nothing behind. -/
structure Outcome.IsVoid (w : World) (outcome : Outcome) : Prop where
  stdout : outcome.stdout = []
  tree : outcome.tree = w.tree
  served : outcome.served = []

/-- A run that reports a failure and leaves nothing behind. -/
structure Outcome.IsRefusal (w : World) (outcome : Outcome) : Prop extends outcome.IsVoid w where
  exit : outcome.exit = .returned 1

/-- A run that is broken off and leaves nothing behind. -/
structure Outcome.IsHalt (w : World) (halt : Halt) (outcome : Outcome) : Prop
    extends outcome.IsVoid w where
  exit : outcome.exit = .halted halt

structure Outcome.IsSuccess (outcome : Outcome) : Prop where
  exit : outcome.exit = .returned 0
  served : outcome.served = []

/-- The files that `expand` uses after it has read its template: the settings and the notes in effect,
and the output. -/
inductive UsedLater (c : Config) (w : World) (o : ExpandOptions) : Path → Prop
  | settings {located : Located}
      (there : locate w (searchStart w.folder o.template) o.settings c.settingsFileName =
        .ok (some located)) : UsedLater c w o located.path
  | notes {located : Located}
      (there : locate w (searchStart w.folder o.template) o.releaseNotes c.releaseNotesFileName =
        .ok (some located)) : UsedLater c w o located.path
  | output {given : Text} (named : o.output = some (.word given)) :
      UsedLater c w o (Path.ofText given)

/-- The location of the log file. -/
def IsLog (c : Config) (folder l : Location) : Prop :=
  ∃ p, Logging.file? c = some p ∧ l = p.resolve folder

/-- A run leaves an entry at a location, or nothing.  What it leaves in a log file is not known. -/
structure Outcome.Leaves (c : Config) (folder : Location) (outcome : Outcome) (l : Location)
    (entry : Option Entry) : Prop where
  apart : ¬ IsLog c folder l
  there : outcome.tree.get? l = entry

/-- Names are printed, each on a line, up to the first that the standard output does not take. -/
inductive CutShort (w : World) (outcome : Outcome) : Action → Prop
  | names {o : NamesOptions} {template name reason : Text} {before after : List Text}
      (read : readInput w o.template = .ok template)
      (parts : Placeholder.namesIn template = before ++ name :: after)
      (taken : ∀ earlier ∈ before, w.refusal? earlier = none)
      (refused : w.refusal? name = some reason)
      (exit : outcome.exit = .returned 1)
      (stdout : outcome.stdout = before.flatMap fun earlier => earlier ++ ['\n'])
      (tree : outcome.tree = w.tree)
      (served : outcome.served = []) : CutShort w outcome (.names o)

/-- A text goes to one place and nothing else is written: to the standard output, or to the file
that an option names. -/
inductive Delivered (w : World) (output : Option Argument) (text : Text) (outcome : Outcome) : Prop
  | printed (unnamed : NamesNothing output) (taken : w.refusal? text = none)
      (stdout : outcome.stdout = text) (tree : outcome.tree = w.tree)
  | stored {given : Text} {l : Location} (nonempty : given ≠ [])
      (named : output = some (.word given))
      (place : w.tree.locate w.folder (Path.ofText given) = .ok l)
      (plain : w.tree.get? l ≠ some .folder)
      (free : w.tree.bars (w.tree.gate l) .write = false)
      (received : outcome.tree.at? w.folder (Path.ofText given) = some (.file (Utf8.encode text)))
      (others : ∀ other, other ≠ l → outcome.tree.get? other = w.tree.get? other)
      (stdout : outcome.stdout = [])

/-- A command has done its work. -/
inductive Done (c : Config) (w : World) (outcome : Outcome) : Action → Prop
  | expand {o : ExpandOptions} {template : Text} {log : List Logging.Record} {sources : Sources}
      (read : readInput w o.template = .ok template)
      (gathered : gather c w (searchStart w.folder o.template) o = (log, .ok sources))
      (complete : o.strict → (Expansion.report sources.resolver template ()).1.complete)
      (delivered : Delivered w o.output (Expansion.report sources.resolver template ()).1.expanded
        outcome) : Done c w outcome (.expand o)
  | names {o : NamesOptions} {template : Text} (read : readInput w o.template = .ok template)
      (taken : ∀ name ∈ Placeholder.namesIn template, w.refusal? name = none)
      (stdout : outcome.stdout = (Placeholder.namesIn template).flatMap fun name => name ++ ['\n'])
      (tree : outcome.tree = w.tree) : Done c w outcome (.names o)
  | reindent {o : ReindentOptions} {text expanded : Text} (read : readInput w o.file = .ok text)
      (tabless : spaced c o text = .ok expanded)
      (reindented : Block.reindent o.indent.text expanded o.strict = .ok outcome.stdout)
      (taken : w.refusal? outcome.stdout = none)
      (tree : outcome.tree = w.tree) : Done c w outcome (.reindent o)

/-- How a command ends. -/
inductive Ending (c : Config) (w : World) (outcome : Outcome) (action : Action) : Prop
  | brokenOff {failure : Failure} (mishap : Mishap c w action failure)
      (halt : outcome.IsHalt w (.failure failure))
  | refused (fault : Fault c w action) (refusal : outcome.IsRefusal w)
  | cutShort (cut : CutShort w outcome action)
  | done (work : Done c w outcome action) (success : outcome.IsSuccess)

end Stencil.Command
