import Stencil.Release.Notes
import Stencil.Text.Digit

/-!
Writing release notes in their canonical layout: the header line and one line for each change.  Notes
whose parts can be told apart in these lines are writable, and what follows the lines has to end the
changes.
-/
namespace Stencil.Release

open Text

/-- What stands behind a version for its tag. -/
def tagMark (tag : Option Text) : Text :=
  (tag.map ('-' :: ·)).getD []

def headerLine (version : Text) (tag : Option Text) : Text :=
  "## ".toList ++ version ++ tagMark tag

def changeLine (change : Text) : Text :=
  "* ".toList ++ change

def Notes.lines (n : Notes) : List Text :=
  headerLine n.version n.tag :: n.changes.map changeLine

/-! ## Writable notes -/

structure IsNumber (t : Text) : Prop where
  nonempty : t ≠ []
  digits : ∀ c ∈ t, isDigit c

instance (t : Text) : Decidable (IsNumber t) :=
  decidable_of_iff (t ≠ [] ∧ t.all isDigit)
    ⟨fun h => ⟨h.1, List.all_eq_true.1 h.2⟩, fun h => ⟨h.1, List.all_eq_true.2 h.2⟩⟩

/-- One to three numbers with full stops between them. -/
def IsVersion (t : Text) : Prop :=
  ∃ first others, t = ['.'].intercalate (first :: others) ∧ others.length ≤ 2 ∧
    ∀ number ∈ first :: others, IsNumber number

structure IsTag (t : Text) : Prop where
  nonempty : t ≠ []
  ink : ∀ c ∈ t, isBlank c = false

instance (t : Text) : Decidable (IsTag t) :=
  decidable_of_iff (t ≠ [] ∧ t.all fun c => !isBlank c)
    ⟨fun h => ⟨h.1, by simpa using h.2⟩, fun h => ⟨h.1, by simpa using h.2⟩⟩

/-- A text that is not empty and stands on one line, without blank characters around it. -/
structure IsChange (t : Text) : Prop where
  nonempty : t ≠ []
  trimmed : trim t = t
  oneLine : '\n' ∉ t

instance (t : Text) : Decidable (IsChange t) :=
  decidable_of_iff (t ≠ [] ∧ trim t = t ∧ '\n' ∉ t)
    ⟨fun h => ⟨h.1, h.2.1, h.2.2⟩, fun h => ⟨h.1, h.2, h.3⟩⟩

structure Notes.Writable (n : Notes) : Prop where
  version : IsVersion n.version
  tag : ∀ tag ∈ n.tag, IsTag tag
  changes : ∀ change ∈ n.changes, IsChange change

/-! ## Lines in a text -/

/-- A header line: two number signs, blanks, and anything that begins with a digit. -/
def IsHeader (line : Text) : Prop :=
  ∃ blanks digit rest, line = "##".toList ++ blanks ++ digit :: rest ∧
    blanks ≠ [] ∧ (∀ c ∈ blanks, isBlank c) ∧ isDigit digit

/-- A line with blank characters around it that do not end it. -/
def Padded (line written : Text) : Prop :=
  ∃ before after, written = before ++ line ++ after ∧
    ∀ c ∈ before ++ after, isBlank c ∧ c ≠ '\n'

/-- What may follow the changes of the latest release: nothing, or below them a blank line or the
header of an older release, and below this anything. -/
inductive Ending : Text → Prop
  | nothing : Ending []
  | line
      {line written rest : Text}
      (stops : line = [] ∨ IsHeader line)
      (oneLine : '\n' ∉ line)
      (padded : Padded line written)
      (below : rest = [] ∨ rest.head? = some '\n') :
      Ending ('\n' :: written ++ rest)

end Stencil.Release
