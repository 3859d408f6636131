import Stencil.Block.Tabs
import Stencil.Command.Help
import Stencil.Command.Sources
import Stencil.Expansion.Report

/-!
Running the commands.  A run reads its world and says what it would write: nothing is written before
everything that can fail has succeeded, but for names, which are printed one after the other.
-/
namespace Stencil.Command

open Text

/-- What breaks a run off. -/
inductive Halt
  /-- The log file cannot be had. -/
  | logFile (o : Obstacle) (p : Path)
  | logLevel (e : Logging.Error)
  /-- A failure that is not reported. -/
  | failure (e : Failure)
  deriving DecidableEq, Repr

def Halt.message : Halt → Text
  | logFile o p => o.message p
  | logLevel e => e.message
  | failure e => e.message

/-- How a run ends. -/
inductive Exit
  /-- The command has run and reports this status. -/
  | returned (status : Nat)
  /-- The command line was left without running a command. -/
  | left (status : Nat)
  | halted (halt : Halt)
  deriving DecidableEq, Repr

structure Serving where
  application : Text
  host : Argument
  portNumber : Option Int
  reload : Bool
  factory : Bool
  deriving DecidableEq, Repr

structure Outcome where
  exit : Exit
  stdout : Text
  log : List Logging.Record
  /-- The files and folders, without the lines that the records put in a log file. -/
  tree : FileTree
  served : List Serving
  deriving DecidableEq, Repr

namespace Outcome

def refused (w : World) (log : List Logging.Record) : Outcome :=
  ⟨.returned 1, [], log, w.tree, []⟩

def halted (w : World) (log : List Logging.Record) (halt : Halt) : Outcome :=
  ⟨.halted halt, [], log, w.tree, []⟩

def failed (w : World) (log : List Logging.Record) (failure : Failure) : Outcome :=
  if failure.isReported then refused w (log ++ [⟨.error, failure.message⟩])
  else halted w log (.failure failure)

def printed (w : World) (log : List Logging.Record) (text : Text) : Outcome :=
  match w.refusal? text with
  | some reason => failed w log (.unprintable reason)
  | none => ⟨.returned 0, text, log, w.tree, []⟩

/-- Prints texts line by line up to one that is refused. -/
def printedLines (w : World) : List Text → Outcome
  | [] => ⟨.returned 0, [], [], w.tree, []⟩
  | t :: texts =>
    match w.refusal? t with
    | some reason => failed w [] (.unprintable reason)
    | none =>
      let rest := printedLines w texts
      { rest with stdout := t ++ '\n' :: rest.stdout }

end Outcome

/-- The text of a file, or of the standard input when the name is a hyphen. -/
def readInput (w : World) (name : Text) : Except Failure Text :=
  let loaded :=
    if name = ['-'] then FileTree.decodeText w.input
    else w.tree.loadText w.folder (Path.ofText name)
  loaded.mapError .load

/-- The folder from which files are looked up: that of the template, or the present one. -/
def searchStart (folder : Location) (template : Text) : Location :=
  if template = ['-'] then folder else (Path.ofText template).parent.resolve folder

def unresolvedWarning (names : List Text) : Logging.Record :=
  ⟨.warning, "Unresolved macros: ".toList ++ ", ".toList.intercalate names⟩

def deliver (w : World) (log : List Logging.Record) (output : Option Argument) (text : Text) :
    Outcome :=
  match output with
  | some (.word (c :: cs)) =>
    let p := Path.ofText (c :: cs)
    match w.tree.write w.folder p (Utf8.encode text) with
    | .error o => .failed w log (.output o p)
    | .ok tree => ⟨.returned 0, [], log, tree, []⟩
  | _ => .printed w log text

def runExpand (c : Config) (w : World) (o : ExpandOptions) : Outcome :=
  match readInput w o.template with
  | .error e => .failed w [] e
  | .ok template =>
    match gather c w (searchStart w.folder o.template) o with
    | (log, .error e) => .failed w log e
    | (log, .ok sources) =>
      let report := (Expansion.report sources.resolver template ()).1
      if report.complete then deliver w log o.output report.expanded
      else
        let log := log ++ [unresolvedWarning report.unresolved]
        if o.strict then .refused w log else deliver w log o.output report.expanded

def runNames (w : World) (o : NamesOptions) : Outcome :=
  match readInput w o.template with
  | .error e => .failed w [] e
  | .ok template =>
    .printedLines w (Placeholder.namesIn template)

def runReindent (c : Config) (w : World) (o : ReindentOptions) : Outcome :=
  match readInput w o.file with
  | .error e => .failed w [] e
  | .ok text =>
    match if o.tabs then Block.expandTabs text c.tabSize else .ok text with
    | .error e => .failed w [] (.block e)
    | .ok text =>
      match Block.reindent o.indent.text text o.strict with
      | .error e => .failed w [] (.block e)
      | .ok text => .printed w [] text

def runServe (w : World) (o : ServeOptions) : Outcome :=
  ⟨.returned 0, [], [], w.tree,
    [⟨"expandkit.api:create_app".toList, o.host, o.portNumber, o.reload, true⟩]⟩

def Action.run (c : Config) (w : World) : Action → Outcome
  | .expand o => runExpand c w o
  | .names o => runNames w o
  | .reindent o => runReindent c w o
  | .serve o => runServe w o

/-- Runs a command line: first the log file is made and the level of the log is set, and without a
command help is given. -/
def run (c : Config) (w : World) (words : List Text) : Outcome :=
  match readInvocation c words with
  | .misuse => ⟨.left 2, [], [], w.tree, []⟩
  | .help => ⟨.left 0, helpText, [], w.tree, []⟩
  | .invocation i =>
    match Logging.openFile c w.tree w.folder with
    | .error (o, p) => .halted w [] (.logFile o p)
    | .ok tree =>
      match Logging.levelFault? c i.debug w.hasLog with
      | some e => .halted { w with tree } [] (.logLevel e)
      | none =>
        match i.action with
        | none => ⟨.returned 1, helpText, [], tree, []⟩
        | some action => action.run c { w with tree }

end Stencil.Command
