import Stencil.Expansion.Machine

/-!
Expansion by plain recursion, the meaning of the expansion machine: the text of an answer is
expanded one level deeper before it is aligned with its placeholder, and a text with no level left
stays as it is.

The recursion is written twice.  `expandAtDepth` counts levels downwards from the template, knows
every placeholder by its position and tells which names it asked; `expandLevels` counts the levels
that are left and keeps the text before each placeholder instead of its position.
-/
namespace Stencil.Expansion

open Placeholder

variable {σ : Type}

/-! ## By depth and position -/

/-- What an expansion gives: its text, the names it asked in order, and the state it leaves. -/
structure Expanded (σ : Type) where
  text : Text
  asked : List Text
  state : σ

/-- Puts the answers in the places of the placeholders of a text from left to right, each after a
further expansion.  `position` is where the cuts start in the text. -/
def fillFrom (ask : Resolver σ) (deeper : Text → σ → Expanded σ) (text rest : Text) :
    Nat → List Cut → σ → Expanded σ
  | _, [], state => ⟨rest, [], state⟩
  | position, cut :: cuts, state =>
    let start := position + cut.literal.length
    let stop := start + (wrap cut.name).length
    match ask cut.name state with
    | (none, state) =>
      let tail := fillFrom ask deeper text rest stop cuts state
      ⟨cut.literal ++ wrap cut.name ++ tail.text, cut.name :: tail.asked, tail.state⟩
    | (some value, state) =>
      let inner := deeper value state
      let tail := fillFrom ask deeper text rest stop cuts inner.state
      ⟨cut.literal ++ alignAt inner.text text start ++ tail.text,
        cut.name :: (inner.asked ++ tail.asked), tail.state⟩

def expandAtDepth (ask : Resolver σ) (depth : Nat) (text : Text) (state : σ) : Expanded σ :=
  if depth ≥ depthLimit then ⟨text, [], state⟩
  else
    let template := Template.scan text
    fillFrom ask (expandAtDepth ask (depth + 1)) text template.rest 0 template.cuts state
  termination_by depthLimit - depth

/-! ## By levels left and text passed -/

/-- What stands in the place of a placeholder: the placeholder when its name is not answered, and
the aligned expansion of the answer when it is.  `before` is what precedes the placeholder, last
character first. -/
def replacement (ask : Resolver σ) (deeper : Text → σ → Text × σ) (before name : Text) (state : σ) :
    Text × σ :=
  match ask name state with
  | (none, state) => (wrap name, state)
  | (some value, state) =>
    let inner := deeper value state
    (align inner.1 (leadOf before), inner.2)

/-- Puts the replacements in the places of the placeholders from left to right.  `passed` is what
stands before the cuts, last character first. -/
def substitute (ask : Resolver σ) (deeper : Text → σ → Text × σ) (rest : Text) :
    Text → List Cut → σ → Text × σ
  | _, [], state => (rest, state)
  | passed, cut :: cuts, state =>
    let before := cut.literal.reverse ++ passed
    let insert := replacement ask deeper before cut.name state
    let tail := substitute ask deeper rest ((wrap cut.name).reverse ++ before) cuts insert.2
    (cut.literal ++ insert.1 ++ tail.1, tail.2)

/-- Puts the replacements in the places of all placeholders of a template. -/
def fill (ask : Resolver σ) (deeper : Text → σ → Text × σ) (passed : Text) (t : Template)
    (state : σ) : Text × σ :=
  substitute ask deeper t.rest passed t.cuts state

/-- Expands a text on so many levels. -/
def expandLevels (ask : Resolver σ) : Nat → Text → σ → Text × σ
  | 0, text, state => (text, state)
  | levels + 1, text, state => fill ask (expandLevels ask levels) [] (Template.scan text) state

end Stencil.Expansion
