import Stencil.Block.Line
import Stencil.Text.Pattern

/-!
Lines of a text, twice more.  By a pattern, a line is anything up to a line feed, or else everything
that is left.  In plain words, the lines are the pieces of a text that has been cut behind every line
feed; a line stands at a position of the text, and every position but the last is in one line.
-/
namespace Stencil.Block

open Text

/-! ## Patterns -/

namespace Grammar

open Pattern

/-- A character that does not end a line. -/
def inLine (c : Char) : Bool :=
  c != '\n'

/-- A line up to its line feed. -/
def endedLine : Pattern :=
  both (most inLine) (one (· == '\n'))

/-- One character or more that end no line. -/
def openLine : Pattern :=
  both (one inLine) (most inLine)

/-- What the first line of a text leaves, with its line feed or else without one. -/
def afterLine? (t : Text) : Option Text :=
  (endedLine.rest? t).or (openLine.rest? t)

/-- The line at the start of a text. -/
def firstLine? (t : Text) : Option Text :=
  (afterLine? t).map fun rest => t.take (t.length - rest.length)

def allLines (t : Text) : List Text :=
  findAll afterLine? t

end Grammar

/-! ## Plain words -/

/-- Pieces that are the lines of a text: they make up the text, none of them is empty, a line feed
stands at the end of each but the last, and nowhere else than at the end. -/
structure AreLines (pieces : List Text) (t : Text) : Prop where
  whole : pieces.flatten = t
  nonempty : [] ∉ pieces
  ended : ∀ piece ∈ pieces.dropLast, piece.getLast? = some '\n'
  oneFeed : ∀ piece ∈ pieces, '\n' ∉ piece.dropLast

/-- A line of a text, and the position at which it starts. -/
def StandsAt (t line : Text) (start : Nat) : Prop :=
  ∃ before after, lines t = before ++ line :: after ∧ start = before.flatten.length

def withoutFeed (line : Text) : Text :=
  if line.getLast? = some '\n' then line.dropLast else line

/-- The ends that are found from a position are those of a line around it, and they are found from
every position between them. -/
structure FindsLine (t line : Text) (position : Nat) : Prop where
  start_le : lineStart t position ≤ position
  le_end : position ≤ lineEnd t position
  between : (t.take (lineEnd t position + 1).toNat).drop (lineStart t position) = withoutFeed line
  whole : lineAt t (lineStart t position) = some line
  alike : ∀ other : Nat, lineStart t position ≤ other → other ≤ lineEnd t position →
    lineStart t other = lineStart t position ∧ lineEnd t other = lineEnd t position

end Stencil.Block
