import Stencil.Config
import Stencil.Files.Tree

/-!
Log records and how the log is set up.
-/
namespace Stencil.Logging

open Text

inductive Level
  | warning
  | error
  deriving DecidableEq, Repr

def Level.name : Level → Text
  | .warning => "WARNING".toList
  | .error => "ERROR".toList

def Level.number : Level → Nat
  | .warning => 30
  | .error => 40

structure Record where
  level : Level
  message : Text
  deriving DecidableEq, Repr

def Record.line (r : Record) : Text :=
  "expandkit.cli - ".toList ++ r.level.name ++ " - ".toList ++ r.message ++ ['\n']

/-- The lines of the records that weigh at least so much. -/
def lines (least : Nat) (records : List Record) : Text :=
  (records.filter fun r => decide (least ≤ r.level.number)).flatMap Record.line

def levels : Table Nat :=
  [("NOTSET".toList, 0), ("DEBUG".toList, 10), ("INFO".toList, 20), ("WARNING".toList, 30),
    ("WARN".toList, 30), ("ERROR".toList, 40), ("CRITICAL".toList, 50), ("FATAL".toList, 50)]

/-- The layout of a record, which has a name among those of the levels but is none. -/
def basicFormat : Text :=
  "%(levelname)s:%(name)s:%(message)s".toList

/-- The styles of layouts, which have a name among those of the levels but are none. -/
def styles : Text :=
  ("\x7b'%': (<class 'logging.PercentStyle'>, '%(levelname)s:%(name)s:%(message)s'), " ++
    "'\x7b': (<class 'logging.StrFormatStyle'>, " ++
    "'\x7blevelname\x7d:\x7bname\x7d:\x7bmessage\x7d'), " ++
    "'$': (<class 'logging.StringTemplateStyle'>, " ++
    "'$\x7blevelname\x7d:$\x7bname\x7d:$\x7bmessage\x7d')\x7d").toList

inductive Error
  /-- The name of the level stands for a text. -/
  | unknownLevel (value : Text)
  /-- The name of the level stands for something that is shown like this. -/
  | noLevel (shown : Text)
  deriving DecidableEq, Repr

def Error.message : Error → Text
  | .unknownLevel value => "Unknown level: ".toList ++ quoted value
  | .noLevel shown => "Level not an integer or a valid string: ".toList ++ shown

/-- The number of the configured level: everything when debugging, and the level of plain
information when there is no such level. -/
def levelNumber (c : Config) (debug : Bool) : Except Error Nat :=
  let name := upper c.logLevel
  if debug || c.debug then .ok 10
  else if name = "BASIC_FORMAT".toList then .error (.unknownLevel basicFormat)
  else if name = "_STYLES".toList then .error (.noLevel styles)
  else .ok ((levels.get? name).getD 20)

def file? (c : Config) : Option Path :=
  match c.logFile with
  | none | some [] => none
  | some name => some (Path.ofText name)

/-- Makes the configured file and the folders on the way to it.  A failure names the path at fault;
the file itself is named from the root. -/
def openFile (c : Config) (tree : FileTree) (folder : Location) :
    Except (Obstacle × Path) FileTree :=
  match file? c with
  | none => .ok tree
  | some p =>
    match tree.makeFolders folder p.parent with
    | .error e => .error e
    | .ok made =>
      let full := Path.ofLocation (p.resolve folder)
      (made.extend [] full).mapError (·, full)

/-- What keeps the level of the log from being set.  It is not set when there is a log already. -/
def levelFault? (c : Config) (debug hasLog : Bool) : Option Error :=
  if hasLog then none
  else match levelNumber c debug with
    | .error e => some e
    | .ok _ => none

end Stencil.Logging
