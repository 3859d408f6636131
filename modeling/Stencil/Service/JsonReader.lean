import Stencil.Service.JsonToken

/-!
Reading JSON from its tokens.  The arrays and objects that are still open stand on a stack, the
innermost first, and only so many may be open at a time.  The first fault met ends the reading, so
what comes after it does not matter.
-/
namespace Stencil.Service.Json

/-- Why a text is not read. -/
inductive Fault
  | malformed
  /-- It goes too deep, or holds an integer of too many digits. -/
  | excessive
  deriving DecidableEq, Repr

/-- An array or object that is still open. -/
inductive Level
  /-- The items read so far, last first. -/
  | array (items : List Json)
  /-- The members read so far, and the name whose value is being read. -/
  | object (members : Table Json) (name : Text)

/-- What may come next. -/
inductive Expected
  | value
  /-- A value, or the end of an array without items. -/
  | item
  /-- A name, or the end of an object without members. -/
  | member
  | name
  | colon
  /-- What follows a complete value. -/
  | next (v : Json)

section Depth

variable (depthLimit : Nat)

def Level.within (level : Level) (levels : List Level) : Except Fault (List Level) :=
  if levels.length < depthLimit then .ok (level :: levels) else .error .excessive

/-- What a token that begins a value leads to: the open levels and what may come next. -/
def begin (levels : List Level) : Token → Except Fault (List Level × Expected)
  | .scalar v => .ok (levels, .next v)
  | .openBracket => ((Level.array []).within depthLimit levels).map (·, .item)
  | .openBrace => ((Level.object [] []).within depthLimit levels).map (·, .member)
  | .longInteger => .error .excessive
  | _ => .error .malformed

def finish (levels : List Level) (v : Json) (token : Token) :
    Except Fault (List Level × Expected) :=
  match token, levels with
  | .comma, .array items :: outer => .ok (.array (v :: items) :: outer, .value)
  | .closeBracket, .array items :: outer => .ok (outer, .next (array (v :: items).reverse))
  | .comma, .object members name :: outer => .ok (.object (members.put name v) [] :: outer, .name)
  | .closeBrace, .object members name :: outer =>
    .ok (outer, .next (object (members.put name v)))
  | _, _ => .error .malformed

def advance (levels : List Level) (expected : Expected) (token : Token) :
    Except Fault (List Level × Expected) :=
  match expected, token, levels with
  | .item, .closeBracket, .array items :: outer => .ok (outer, .next (array items.reverse))
  | .member, .closeBrace, .object members _ :: outer => .ok (outer, .next (object members))
  | .member, .scalar (text name), .object members _ :: outer
  | .name, .scalar (text name), .object members _ :: outer =>
    .ok (.object members name :: outer, .colon)
  | .colon, .colon, levels => .ok (levels, .value)
  | .value, token, levels => begin depthLimit levels token
  | .item, token, levels => begin depthLimit levels token
  | .next v, token, levels => finish levels v token
  | _, _, _ => .error .malformed

/-- Reads on with some levels open. -/
def readTokens (levels : List Level) (expected : Expected) : List Token → Except Fault Json
  | [] =>
    match levels, expected with
    | [], .next v => .ok v
    | _, _ => .error .malformed
  | token :: tokens =>
    match advance depthLimit levels expected token with
    | .ok (levels, expected) => readTokens levels expected tokens
    | .error fault => .error fault

def read (t : Text) : Except Fault Json :=
  readTokens depthLimit [] .value (Token.read t)

end Depth

end Stencil.Service.Json
