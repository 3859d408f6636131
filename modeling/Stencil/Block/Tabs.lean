import Stencil.Block.Error
import Stencil.Block.Line

/-!
Tabs.  A tab reaches to the next column that is a multiple of the tab size, every other character
takes one column, and columns start anew on every line.
-/
namespace Stencil.Block

def expandTabsFrom (size column : Nat) : Text → Text
  | [] => []
  | c :: cs =>
    if c = '\t' then
      let target := (column + size) / size * size
      List.replicate (target - column) ' ' ++ expandTabsFrom size target cs
    else c :: expandTabsFrom size (column + 1) cs

def expandTabsLine (line : Text) (size : Int) : Except Error Text :=
  if size < 1 then .error (.tabSize size) else .ok (expandTabsFrom size.toNat 0 line)

def expandTabs (block : Text) (size : Int) : Except Error Text :=
  if size < 1 then .error (.tabSize size)
  else .ok ((lines block).flatMap (expandTabsFrom size.toNat 0))

/-! ## Columns -/

/-- The next tab stop after a column: the least multiple of the tab size beyond it. -/
structure IsTabStop (size column stop : Nat) : Prop where
  multiple : size ∣ stop
  beyond : column < stop
  least : ∀ other, size ∣ other → column < other → stop ≤ other

/-- The column that the beginning of a line reaches. -/
inductive EndsAt (size : Nat) : Text → Nat → Prop
  | start : EndsAt size [] 0
  | sign {before : Text} {column : Nat} {c : Char} :
      EndsAt size before column →
      c ≠ '\t' →
      EndsAt size (before ++ [c]) (column + 1)
  | tab {before : Text} {column stop : Nat} :
      EndsAt size before column →
      IsTabStop size column stop →
      EndsAt size (before ++ ['\t']) stop

/-- A line with spaces in the places of its tabs.  Every other character stands at the column that
the line reaches before it, and the spaces of a tab fill the columns up to the next tab stop. -/
structure KeepsColumns (size : Nat) (line spaced : Text) : Prop where
  width : EndsAt size line spaced.length
  sign : ∀ before c after, line = before ++ c :: after → c ≠ '\t' →
    ∃ left right, spaced = left ++ c :: right ∧ EndsAt size before left.length
  tab : ∀ before after, line = before ++ '\t' :: after →
    ∃ left count right, spaced = left ++ List.replicate count ' ' ++ right ∧
      EndsAt size before left.length ∧ IsTabStop size left.length (left.length + count) ∧
      1 ≤ count ∧ count ≤ size

end Stencil.Block
