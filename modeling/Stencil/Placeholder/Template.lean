import Stencil.Placeholder.Name

/-!
Templates: a text cut at its placeholders.  A brace that does not begin or end a placeholder is part
of the literal text around it.
-/
namespace Stencil

open Placeholder

/-- Literal text up to a placeholder, and the name of that placeholder. -/
structure Cut where
  literal : Text
  name : Text
  deriving DecidableEq, Repr

/-- A text as literal texts with placeholders between them. -/
structure Template where
  cuts : List Cut
  rest : Text
  deriving DecidableEq, Repr

namespace Template

def cons (c : Char) : Template → Template
  | ⟨[], rest⟩ => ⟨[], c :: rest⟩
  | ⟨cut :: cuts, rest⟩ => ⟨{ cut with literal := c :: cut.literal } :: cuts, rest⟩

def consName (name : Text) (t : Template) : Template :=
  ⟨⟨[], name⟩ :: t.cuts, t.rest⟩

/-- The name of the placeholder that an opening brace begins, given the text after the brace. -/
def nameAfterBrace? (t : Text) : Option Text :=
  let name := t.takeWhile isNameChar
  if !name.isEmpty && (t.drop name.length).head? == some '}' then some name else none

/-- Cuts a text whose first `skip` characters belong to a placeholder already found. -/
def scanFrom : Nat → Text → Template
  | _, [] => ⟨[], []⟩
  | skip + 1, _ :: cs => scanFrom skip cs
  | 0, c :: cs =>
    if c = '{' then
      match nameAfterBrace? cs with
      | some name => consName name (scanFrom (name.length + 1) cs)
      | none => cons c (scanFrom 0 cs)
    else cons c (scanFrom 0 cs)

def scan (t : Text) : Template :=
  scanFrom 0 t

def render (t : Template) : Text :=
  t.cuts.flatMap (fun cut => cut.literal ++ wrap cut.name) ++ t.rest

def names (t : Template) : List Text :=
  t.cuts.map Cut.name

end Template

namespace Placeholder

/-- A placeholder found in a text: its name, where it starts and where the text after it starts. -/
structure Occurrence where
  name : Text
  start : Nat
  stop : Nat
  deriving DecidableEq, Repr

def occurrencesFrom (position : Nat) : List Cut → List Occurrence
  | [] => []
  | cut :: cuts =>
    let start := position + cut.literal.length
    let stop := start + cut.name.length + 2
    ⟨cut.name, start, stop⟩ :: occurrencesFrom stop cuts

def occurrences (t : Text) : List Occurrence :=
  occurrencesFrom 0 (Template.scan t).cuts

/-- Adds a name to the end of a list that does not hold it. -/
def addName (names : List Text) (name : Text) : List Text :=
  if names.contains name then names else names ++ [name]

/-- The names of a list in order of first appearance. -/
def distinct (names : List Text) : List Text :=
  names.foldl addName []

/-- The names used in a text, each once. -/
def namesIn (t : Text) : List Text :=
  distinct (Template.scan t).names

end Placeholder

end Stencil
