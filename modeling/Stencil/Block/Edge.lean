import Stencil.Block.Indent

/-!
The edges of a text block: the blank lines before its first and after its last inked character.
Only spaces, tabs, line feeds and carriage returns right before a line feed count as blank here.
-/
namespace Stencil.Block

open Text

/-- How the line end at an edge is treated. -/
inductive EdgeMode
  /-- There is exactly one. -/
  | force
  /-- There is none. -/
  | suppress
  /-- There is one if there was any. -/
  | preserve
  deriving DecidableEq, Repr

def EdgeMode.name : EdgeMode → Text
  | force => "force".toList
  | suppress => "suppress".toList
  | preserve => "preserve".toList

def EdgeMode.ofName (name : Text) : Except Error EdgeMode :=
  if name = "force".toList then .ok .force
  else if name = "suppress".toList then .ok .suppress
  else if name = "preserve".toList then .ok .preserve
  else .error (.unknownMode name)

/-! ## Line ends at an edge -/

def dropLineEnd? : Text → Option Text
  | '\n' :: cs => some cs
  | '\r' :: '\n' :: cs => some cs
  | _ => none

def dropBlankLine? (t : Text) : Option Text :=
  dropLineEnd? (t.dropWhile isPad)

/-- The text starts with a line end, spaces and tabs before it passed over or not. -/
def startsWithLineEnd (t : Text) (skipPad : Bool) : Bool :=
  (dropLineEnd? (if skipPad then t.dropWhile isPad else t)).isSome

/-- The text ends with a line feed, spaces and tabs after it passed over or not. -/
def endsWithLineEnd (t : Text) (skipPad : Bool) : Bool :=
  (if skipPad then t.reverse.dropWhile isPad else t.reverse).head? == some '\n'

/-- Adds a line end at each requested edge that has none.  The empty text becomes a single line
end. -/
def forceLineEnds (t : Text) (head tail : Bool) (lineEnd : Text) : Text :=
  if t.isEmpty then (if head || tail then lineEnd else t)
  else
    (if head && !startsWithLineEnd t true then lineEnd else []) ++ t ++
      (if tail && !endsWithLineEnd t true then lineEnd else [])

/-! ## Trimming -/

theorem length_lt_of_dropLineEnd?
    {t rest : Text}
    (dropped : dropLineEnd? t = some rest) :
    rest.length < t.length := by
  unfold dropLineEnd? at dropped
  split at dropped
  · cases dropped; simp
  · cases dropped; simp only [List.length_cons]; omega
  · cases dropped

theorem length_lt_of_dropBlankLine?
    {t rest : Text}
    (dropped : dropBlankLine? t = some rest) :
    rest.length < t.length :=
  Nat.lt_of_lt_of_le (length_lt_of_dropLineEnd? dropped)
    (List.dropWhile_suffix isPad).length_le

def dropBlankLines (t : Text) : Text :=
  match _dropped : dropBlankLine? t with
  | some rest => dropBlankLines rest
  | none => t
  termination_by t.length
  decreasing_by exact length_lt_of_dropBlankLine? _dropped

/-- What remains of a reversed text after its last spaces, tabs, line feeds and carriage returns
right before a line feed. -/
def dropTrailing : Text → Text
  | [] => []
  | '\n' :: '\r' :: cs => dropTrailing cs
  | c :: cs => if c = '\n' ∨ isPad c then dropTrailing cs else c :: cs

/-- A text cut into leading blank lines, body and trailing blank characters. -/
structure Edges where
  head : Text
  body : Text
  tail : Text
  deriving DecidableEq, Repr

def edges (t : Text) : Edges :=
  let rest := dropBlankLines t
  let body := (dropTrailing rest.reverse).reverse
  ⟨t.take (t.length - rest.length), body, rest.drop body.length⟩

def EdgeMode.lineEnd (mode : EdgeMode) (present : Bool) : Text :=
  match mode with
  | .force => ['\n']
  | .suppress => []
  | .preserve => if present then ['\n'] else []

/-- Trims the blank lines at both edges and puts back at most one line end on each side. -/
def settleEdges (t : Text) (head tail : EdgeMode) : Text :=
  let e := edges t
  head.lineEnd (!e.head.isEmpty) ++ e.body ++ tail.lineEnd (e.tail.contains '\n')

def trimEdges (t : Text) : Text :=
  settleEdges t .suppress .suppress

/-- The text without its edges and without its common indent. -/
def dedent (t : Text) : Text :=
  let body := trimEdges t
  (lines body).flatMap (stripIndent (commonIndent body))

end Stencil.Block
