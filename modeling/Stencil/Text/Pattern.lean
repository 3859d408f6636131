import Stencil.Table

/-!
Patterns with groups.  A pattern says in which order the ways to match a text are tried, and the
first one that lets the rest match counts: repetitions take many characters first or few, and a part
that may be missing is tried before it is left out.
-/
namespace Stencil.Text

inductive Pattern
  /-- One character of a class. -/
  | one (inClass : Char → Bool)
  /-- Characters of a class, as many as possible first. -/
  | most (inClass : Char → Bool)
  /-- Characters of a class, as few as possible first. -/
  | fewest (inClass : Char → Bool)
  | both (first second : Pattern)
  /-- The part, or else nothing. -/
  | maybe (part : Pattern)
  /-- The part again and again, as often as possible first. -/
  | many (part : Pattern)
  /-- The part, whose text is kept under a name. -/
  | group (name : Text) (part : Pattern)

namespace Pattern

/-- Texts of groups by name. -/
abbrev Groups := Table Text

variable {β : Type}

/-- Passes characters of a class and goes on with the rest, after many of them first. -/
def passMost (inClass : Char → Bool) (goOn : Text → Option β) : Text → Option β
  | [] => goOn []
  | c :: cs =>
    if inClass c then (passMost inClass goOn cs).or (goOn (c :: cs)) else goOn (c :: cs)

/-- Passes characters of a class and goes on with the rest, after few of them first. -/
def passFewest (inClass : Char → Bool) (goOn : Text → Option β) : Text → Option β
  | [] => goOn []
  | c :: cs => (goOn (c :: cs)).or (if inClass c then passFewest inClass goOn cs else none)

/-- Passes a part again and again and goes on with the rest, after many of them first.  Only a part
that takes some characters counts. -/
def passMany (pass : (Text → Groups → Option β) → Text → Groups → Option β)
    (goOn : Text → Groups → Option β) (t : Text) (groups : Groups) : Option β :=
  let again rest groups :=
    if rest.length < t.length then passMany pass goOn rest groups else none
  (pass again t groups).or (goOn t groups)
  termination_by t.length

/-- Goes on with what is left after the first way to match the start of a text that leads to a
result. -/
def attempt : Pattern → (Text → Groups → Option β) → Text → Groups → Option β
  | one _, _, [], _ => none
  | one inClass, goOn, c :: cs, groups => if inClass c then goOn cs groups else none
  | most inClass, goOn, t, groups => passMost inClass (goOn · groups) t
  | fewest inClass, goOn, t, groups => passFewest inClass (goOn · groups) t
  | both first second, goOn, t, groups => attempt first (attempt second goOn) t groups
  | maybe part, goOn, t, groups => (attempt part goOn t groups).or (goOn t groups)
  | many part, goOn, t, groups => passMany (attempt part) goOn t groups
  | group name part, goOn, t, groups =>
    attempt part
      (fun rest groups => goOn rest (groups.put name (t.take (t.length - rest.length)))) t groups

/-- The groups of the first match of a whole text. -/
def fullMatch? (p : Pattern) (t : Text) : Option Groups :=
  p.attempt (fun rest groups => if rest = [] then some groups else none) t []

/-- The groups of the first match that goes on to the end of a text, wherever it starts. -/
def matchToEnd? (p : Pattern) : Text → Option Groups
  | [] => p.fullMatch? []
  | c :: cs => (p.fullMatch? (c :: cs)).or (matchToEnd? p cs)

/-- What is left of a text after the first match at its start. -/
def rest? (p : Pattern) (t : Text) : Option Text :=
  p.attempt (fun rest _ => some rest) t []

/-- The texts that are matched one after the other, given what a match at the start of a text leaves.
A character at which no match starts is passed over, and only a match that takes some characters
counts. -/
def findAll (rest? : Text → Option Text) : Text → List Text
  | [] => []
  | c :: cs =>
    match rest? (c :: cs) with
    | some rest =>
      if rest.length ≤ cs.length then
        (c :: cs).take ((c :: cs).length - rest.length) :: findAll rest? rest
      else findAll rest? cs
    | none => findAll rest? cs
  termination_by t => t.length

end Pattern

end Stencil.Text
