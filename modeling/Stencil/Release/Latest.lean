import Stencil.Release.Printer

/-!
The latest release of a changelog in plain words: the header line at the top, the lines below it that
are its changes, and what is beyond them.  A change is its line without the bullet that it may have.
-/
namespace Stencil.Release

open Text

/-- A line that is no change of the release above it: a blank line, or the header of an older
release. -/
def EndsRelease (line : Text) : Prop :=
  (∀ c ∈ line, isBlank c) ∨ IsHeader line

/-- A changelog that begins with the header of a release, and goes on with the lines of its changes
up to a line that ends them or to the end. -/
structure IsLatest (lines : List Text) (header : Text) (changed beyond : List Text) : Prop where
  whole : lines = header :: (changed ++ beyond)
  first : IsHeader header
  going : ∀ line ∈ changed, ¬ EndsRelease line
  stops : ∀ line ∈ beyond.head?, EndsRelease line

/-- Asterisks, and blanks behind them. -/
inductive IsBullet : Text → Prop
  | mk {stars blanks : Text} :
      stars ≠ [] → (∀ c ∈ stars, c = '*') → blanks ≠ [] → (∀ c ∈ blanks, isBlank c) →
      IsBullet (stars ++ blanks)

/-- The change that a line tells: what follows its bullet with all blanks, or the whole line when no
bullet stands before it. -/
inductive Tells : Text → Text → Prop
  | bulleted {bullet change : Text} :
      IsBullet bullet → (∀ c ∈ change.head?, isBlank c = false) → Tells (bullet ++ change) change
  | plain {line : Text} : (∀ bullet, IsBullet bullet → ¬ bullet <+: line) → Tells line line

end Stencil.Release
