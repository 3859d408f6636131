import Stencil.Settings.Line
import Stencil.Settings.History
import Stencil.Text.LineEnd
import Stencil.Text.Pattern
import Stencil.Text.Split

/-!
The grammar of settings lines, twice.  By patterns, a line is matched as a whole against three
patterns in turn.  In plain words, a line is trimmed, and then its first and last characters and its
first equals sign say what it is.  Only lines without a line feed have a plain reading.
-/
namespace Stencil.Settings

open Text

/-! ## Patterns -/

namespace Grammar

open Pattern

def blanks : Pattern :=
  most isBlank

def sign (c : Char) : Pattern :=
  one (· == c)

/-- As little as possible of what stands on one line. -/
def inner : Pattern :=
  fewest (· != '\n')

def nameGroup : Text := "name".toList

def keyGroup : Text := "key".toList

def valueGroup : Text := "value".toList

/-- Nothing, or a remark that goes on to the end of the line. -/
def remark : Pattern :=
  both blanks (maybe (both (one fun c => c == '#' || c == ';') (most (· != '\n'))))

/-- A name in brackets. -/
def header : Pattern :=
  both blanks <| both (sign '[') <| both blanks <| both (group nameGroup inner) <|
    both blanks <| both (sign ']') blanks

/-- A key that may have a value after an equals sign. -/
def entry : Pattern :=
  both blanks <| both (group keyGroup inner) <| both blanks <|
    maybe <| both (sign '=') <| both blanks <| both (group valueGroup inner) blanks

end Grammar

namespace Line

/-- Reads a line by the first of the three patterns that matches it. -/
def match? (line : Text) : Option Line :=
  if (Grammar.remark.fullMatch? line).isSome then some .remark
  else match Grammar.header.fullMatch? line with
    | some groups => some (.header ((groups.get? Grammar.nameGroup).getD []))
    | none =>
      match Grammar.entry.fullMatch? line with
      | some groups =>
        some (.entry ((groups.get? Grammar.keyGroup).getD []) (groups.get? Grammar.valueGroup))
      | none => none

/-! ## Plain words -/

/-- What a trimmed line says when it is not in brackets. -/
def plainEntry (t : Text) : Line :=
  match cut? '=' t with
  | some (key, value) => .entry (trim key) (some (trim value))
  | none => .entry t none

/-- What a line says. -/
def plain (line : Text) : Line :=
  let t := trim line
  if t = [] ∨ t.head? = some '#' ∨ t.head? = some ';' then .remark
  else if t.head? = some '[' ∧ t.getLast? = some ']' then .header (trim t.tail.dropLast)
  else plainEntry t

/-- What some lines say, without the remarks. -/
def told (lines : List Text) : List Line :=
  (lines.map plain).filter (· != .remark)

/-- A line that says the same when it is cut at other line ends than line feeds: none stands between
its first and its last ink, or there are only remarks between them. -/
def staysWhole (line : Text) : Bool :=
  (trim line).all (!isLineEnd ·) || (pieces line).all (plain · == .remark)

end Line

/-! ## The lines of a file -/

/-- What the lines of a file do to it, when the section of a name is open. -/
def History.ofLinesIn : Text → List Line → History
  | _, [] => []
  | current, .remark :: lines => ofLinesIn current lines
  | _, .header name :: lines => .opened name :: ofLinesIn name lines
  | current, .entry key value :: lines => .assigned current key value :: ofLinesIn current lines

/-- The root is open from the start. -/
def History.ofLines (lines : List Line) : History :=
  .opened [] :: ofLinesIn [] lines

end Stencil.Settings
