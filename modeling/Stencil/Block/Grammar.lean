import Stencil.Block.Edge
import Stencil.Text.Pattern
import Stencil.Text.Quoted

/-!
The edges of a text, twice.  By a pattern, blank lines come first, then as little as possible, and
then spaces, tabs and line ends up to the end.  In plain words, the head is the longest beginning
that consists of blank lines, and the tail is the longest end of the rest that consists of spaces,
tabs and line ends.

Whether a text starts or ends with a line end is read off patterns too, one at its start and one that
goes on to its end.
-/
namespace Stencil.Block

open Text

/-! ## Patterns -/

namespace Grammar

open Pattern

def headGroup : Text := "head".toList

def bodyGroup : Text := "body".toList

def tailGroup : Text := "tail".toList

def padding : Pattern :=
  most isPad

/-- A line feed, or a carriage return and a line feed. -/
def lineEnd : Pattern :=
  both (maybe (one (· == '\r'))) (one (· == '\n'))

def oneOrMore (part : Pattern) : Pattern :=
  both part (many part)

def leading : Pattern :=
  maybe (group headGroup (oneOrMore (both padding lineEnd)))

def trailing : Pattern :=
  both padding (maybe (group tailGroup (oneOrMore (both lineEnd padding))))

def edges : Pattern :=
  both leading (both (group bodyGroup (fewest fun _ => true)) trailing)

/-- A line end at the start of a text, after padding. -/
def opening : Pattern :=
  both padding lineEnd

/-- A line end at the end of a text, before padding. -/
def closing : Pattern :=
  both lineEnd padding

def startsWithLineEnd (t : Text) (skipPad : Bool) : Bool :=
  if skipPad then (opening.rest? t).isSome
  else ['\r', '\n'].isPrefixOf t || ['\n'].isPrefixOf t

def endsWithLineEnd (t : Text) (skipPad : Bool) : Bool :=
  if skipPad then (closing.matchToEnd? t).isSome else ['\n'].isSuffixOf t

end Grammar

/-- A text that is not matched, so that nothing can be trimmed. -/
structure Untrimmable where
  text : Text
  deriving DecidableEq, Repr

def Untrimmable.message (e : Untrimmable) : Text :=
  "Text ".toList ++ quoted e.text ++ " cannot be trimmed".toList

/-- Trims the edges found by the pattern and puts back at most one line end on each side. -/
def trySettleEdges (t : Text) (head tail : EdgeMode) : Except Untrimmable Text :=
  match Grammar.edges.fullMatch? t with
  | none => .error ⟨t⟩
  | some groups =>
    .ok (head.lineEnd (groups.get? Grammar.headGroup).isSome ++
      (groups.get? Grammar.bodyGroup).getD [] ++
      tail.lineEnd (groups.get? Grammar.tailGroup).isSome)

/-! ## Plain words -/

/-- A line feed, or a carriage return and a line feed. -/
def IsLineEnd (t : Text) : Prop :=
  t = ['\n'] ∨ t = ['\r', '\n']

/-- Lines of spaces and tabs only, each with its line end. -/
inductive BlankLines : Text → Prop
  | nil : BlankLines []
  | line {pads lineEnd rest : Text} :
      (∀ c ∈ pads, isPad c) → IsLineEnd lineEnd → BlankLines rest →
      BlankLines (pads ++ lineEnd ++ rest)

/-- Spaces, tabs and line ends only. -/
inductive BlankTail : Text → Prop
  | nil : BlankTail []
  | pad {c : Char} {rest : Text} : isPad c → BlankTail rest → BlankTail (c :: rest)
  | lineEnd {lineEnd rest : Text} :
      IsLineEnd lineEnd → BlankTail rest → BlankTail (lineEnd ++ rest)

/-- The longest beginning of a text that has a property. -/
structure IsLongestPrefix (property : Text → Prop) (t a : Text) : Prop where
  starts : a <+: t
  holds : property a
  longest : ∀ b, b <+: t → property b → b.length ≤ a.length

/-- The longest end of a text that has a property. -/
structure IsLongestSuffix (property : Text → Prop) (t a : Text) : Prop where
  ends : a <:+ t
  holds : property a
  longest : ∀ b, b <:+ t → property b → b.length ≤ a.length

/-- A text is cut at its edges. -/
structure Edges.Cuts (e : Edges) (t : Text) : Prop where
  whole : t = e.head ++ e.body ++ e.tail
  head : IsLongestPrefix BlankLines t e.head
  tail : IsLongestSuffix BlankTail (e.body ++ e.tail) e.tail

/-- What is added at one end of a text: nothing, or a line end that is asked for where there was
none. -/
def IsAdded (asked present : Bool) (lineEnd added : Text) : Prop :=
  added = [] ∨ added = lineEnd ∧ asked ∧ present = false

/-- A text has got the line ends that are asked for, and nothing else has been done to it. -/
structure ForcesLineEnds (head tail : Bool) (lineEnd t forced : Text) : Prop where
  starts : head → Grammar.startsWithLineEnd forced true
  ends : tail → Grammar.endsWithLineEnd forced true
  added : ∃ before after, forced = before ++ t ++ after ∧
    IsAdded head (Grammar.startsWithLineEnd t true) lineEnd before ∧
    IsAdded tail (Grammar.endsWithLineEnd t true) lineEnd after

end Stencil.Block
