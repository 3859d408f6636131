import Stencil.Command.Options
import Stencil.Config

/-!
Invocations: what the commands and their options ask for.
-/
namespace Stencil.Command

open Text

structure ExpandOptions where
  template : Text
  output : Option Argument
  defines : List Argument
  settings : Option Argument
  sectionName : Option Argument
  releaseNotes : Option Argument
  ignoreCase : Bool
  noEnvironment : Bool
  strict : Bool
  deriving DecidableEq, Repr

structure NamesOptions where
  template : Text
  deriving DecidableEq, Repr

structure ReindentOptions where
  file : Text
  indent : Argument
  tabs : Bool
  strict : Bool
  deriving DecidableEq, Repr

structure ServeOptions where
  host : Argument
  /-- Missing when the option was left with nothing. -/
  portNumber : Option Int
  reload : Bool
  deriving DecidableEq, Repr

inductive Action
  | expand (o : ExpandOptions)
  | names (o : NamesOptions)
  | reindent (o : ReindentOptions)
  | serve (o : ServeOptions)
  deriving DecidableEq, Repr

/-- What a command line asks for; without a command there is nothing to do but to help. -/
structure Invocation where
  debug : Bool
  action : Option Action
  deriving DecidableEq, Repr

inductive Reading
  | misuse
  | help
  | invocation (i : Invocation)
  deriving DecidableEq, Repr

/-! ## Grammars -/

def option (key : String) (spellings : List String) (takesArgument : Bool) : Switch :=
  ⟨key, spellings.map String.toList, takesArgument⟩

def helpSwitch : Switch :=
  option "help" ["-h", "--help"] false

def mainGrammar : Grammar :=
  ⟨[helpSwitch, option "debug" ["--debug"] false], .command⟩

def expandGrammar : Grammar :=
  ⟨[helpSwitch,
    option "output" ["--output", "-o"] true,
    option "define" ["--define", "-D"] true,
    option "settings" ["--settings"] true,
    option "section" ["--section"] true,
    option "release-notes" ["--release-notes"] true,
    option "ignore-case" ["--ignore-case"] false,
    option "no-env" ["--no-env"] false,
    option "strict" ["--strict"] false], .operand⟩

def namesGrammar : Grammar :=
  ⟨[helpSwitch], .operand⟩

def reindentGrammar : Grammar :=
  ⟨[helpSwitch,
    option "indent" ["--indent"] true,
    option "tabs" ["--tabs"] false,
    option "strict" ["--strict"] false], .operand⟩

def serveGrammar : Grammar :=
  ⟨[helpSwitch,
    option "host" ["--host"] true,
    option "number" ["--port"] true,
    option "reload" ["--reload"] false], .nothing⟩

/-! ## Reading events -/

namespace Event

/-- A number was asked for and something else was given. -/
def isBadNumber : Event → Bool
  | argument "number" (.word t) => (readInt? t).isNone
  | _ => false

/-- The event ends the reading: a call for help, or a mistake. -/
def stop? : Event → Option Reading
  | flag "help" => some .help
  | misuse => some .misuse
  | e => if e.isBadNumber then some .misuse else none

def arguments (events : List Event) (key : String) : List Argument :=
  events.filterMap fun
    | argument k a => if k = key then some a else none
    | _ => none

def last? (events : List Event) (key : String) : Option Argument :=
  (arguments events key).getLast?

def given (events : List Event) (key : String) : Bool :=
  events.contains (.flag key)

def operands (events : List Event) : List Text :=
  events.filterMap fun
    | operand t => some t
    | _ => none

end Event

/-- The action of a command whose events hold no call for help and no mistake; nothing when an
operand is missing or a word has no meaning. -/
def Action.ofEvents? (c : Config) (name : Text) (events : List Event) : Option Action :=
  if events.contains .surplus then none
  else match String.ofList name, Event.operands events with
    | "expand", [template] => some <| .expand {
        template
        output := Event.last? events "output"
        defines := Event.arguments events "define"
        settings := Event.last? events "settings"
        sectionName := Event.last? events "section"
        releaseNotes := Event.last? events "release-notes"
        ignoreCase := Event.given events "ignore-case"
        noEnvironment := Event.given events "no-env"
        strict := Event.given events "strict" }
    | "names", [template] => some (.names ⟨template⟩)
    | "reindent", [file] => some <| .reindent {
        file
        indent := (Event.last? events "indent").getD (.word [])
        tabs := Event.given events "tabs"
        strict := Event.given events "strict" }
    | "serve", [] => some <| .serve {
        host := (Event.last? events "host").getD (.word c.host)
        portNumber := match Event.last? events "number" with
          | none => some c.portNumber
          | some a => readInt? a.text
        reload := Event.given events "reload" }
    | _, _ => none

def grammar? (name : Text) : Option Grammar :=
  match String.ofList name with
  | "expand" => some expandGrammar
  | "names" => some namesGrammar
  | "reindent" => some reindentGrammar
  | "serve" => some serveGrammar
  | _ => none

def readAction (c : Config) (name : Text) (words : List Text) : Reading ⊕ Action :=
  match grammar? name with
  | none => .inl .misuse
  | some g =>
    let events := g.read words
    match events.findSome? Event.stop? with
    | some r => .inl r
    | none =>
      match Action.ofEvents? c name events with
      | some a => .inr a
      | none => .inl .misuse

def readMain (c : Config) (debug surplus : Bool) : List Event → Reading
  | [] => if surplus then .misuse else .invocation ⟨debug, none⟩
  | .command name words :: _ =>
    match readAction c name words with
    | .inl r => r
    | .inr a => if surplus then .misuse else .invocation ⟨debug, some a⟩
  | .surplus :: events => readMain c debug true events
  | .flag key :: events =>
    if key = "help" then .help else readMain c true surplus events
  | _ :: _ => .misuse

def readInvocation (c : Config) (words : List Text) : Reading :=
  readMain c false false (mainGrammar.read words)

end Stencil.Command
