import Stencil.Table
import Stencil.Text.Case
import Stencil.Text.Numeral
import Stencil.Text.Quoted
import Stencil.Text.Split

/-!
The configuration, which environment variables may change.
-/
namespace Stencil

open Text

structure Config where
  /-- Name of the settings file that is looked up from the folder of the template upwards. -/
  settingsFileName : Text
  /-- Section of the settings file that supplies values; the root has the empty name. -/
  settingsSection : Text
  /-- Name of the changelog that is looked up from the folder of the template upwards. -/
  releaseNotesFileName : Text
  ignoreCase : Bool
  /-- Columns from one tab stop to the next. -/
  tabSize : Int
  /-- Name of the least level of the log records that are kept. -/
  logLevel : Text
  logFile : Option Text
  host : Text
  portNumber : Int
  debug : Bool
  corsOrigins : List Text
  deriving DecidableEq, Repr

namespace Config

inductive Error
  /-- A variable that has to be an integer is not one. -/
  | notInteger (t : Text)
  /-- An integer has so many digits that it is not read. -/
  | tooManyDigits (digits : Nat)
  deriving DecidableEq, Repr

/-- The message of a failure; of a quoted variable it shows the first two hundred characters. -/
def Error.message : Error → Text
  | .notInteger t => "invalid literal for int() with base 10: ".toList ++ (quoted t).take 200
  | .tooManyDigits digits =>
    "Exceeds the limit (".toList ++ Text.ofNat digitLimit ++
      " digits) for integer string conversion: value has ".toList ++ Text.ofNat digits ++
      " digits; use sys.set_int_max_str_digits() to increase the limit".toList

def setting (env : Table Text) (name default : String) : Text :=
  (env.get? name.toList).getD default.toList

/-- A variable that is on when it says so, in letters of any case. -/
def switch (env : Table Text) (name : String) : Bool :=
  lower (setting env name "false") == "true".toList

def integer (env : Table Text) (name default : String) : Except Error Int :=
  let t := setting env name default
  match readInt t with
  | .ok n => .ok n
  | .error .malformed => .error (.notInteger t)
  | .error (.tooLong digits) => .error (.tooManyDigits digits)

/-- The origins of a variable that lists them; all when it is empty or not set. -/
def origins (env : Table Text) : List Text :=
  match setting env "CORS_ALLOW_ORIGINS" "" with
  | [] => [['*']]
  | t => split ',' t

def ofEnvironment (env : Table Text) : Except Error Config := do
  let tabSize ← integer env "TAB_SIZE" "4"
  let portNumber ← integer env "PORT" "8000"
  return {
    settingsFileName := setting env "TEMPLATE_SETTINGS_FILE" "build.ini"
    settingsSection := setting env "TEMPLATE_SETTINGS_SECTION" ""
    releaseNotesFileName := setting env "RELEASE_NOTES_FILE" "CHANGES.md"
    ignoreCase := switch env "TEMPLATE_IGNORE_CASE"
    tabSize
    logLevel := setting env "LOG_LEVEL" "INFO"
    logFile := env.get? "LOG_FILE".toList
    host := setting env "HOST" "127.0.0.1"
    portNumber
    debug := switch env "DEBUG"
    corsOrigins := origins env }

def default : Config where
  settingsFileName := "build.ini".toList
  settingsSection := []
  releaseNotesFileName := "CHANGES.md".toList
  ignoreCase := false
  tabSize := 4
  logLevel := "INFO".toList
  logFile := none
  host := "127.0.0.1".toList
  portNumber := 8000
  debug := false
  corsOrigins := [['*']]

example : ofEnvironment [] = .ok default := by rfl

end Config

end Stencil
