import Stencil.Settings.File
import Stencil.Text.Blank

/-!
Writing settings: the entries of the root come first, and every other section has a header line.
Names, keys and values that stand on one line, and cannot be taken for something else there, are
writable.
-/
namespace Stencil.Settings

open Text

/-- The line of an entry; a key without a value stands alone. -/
def entryLine (key : Text) : Option Text → Text
  | none => key
  | some value => key ++ " = ".toList ++ value

def Section.entryLines (s : Section) : List Text :=
  s.entries.map fun e => entryLine e.1 e.2

def Section.lines (s : Section) : List Text :=
  ('[' :: s.name ++ [']']) :: s.entryLines

/-- The lines of a file whose first section is the root. -/
def File.lines (f : File) : List Text :=
  match f.sections with
  | [] => []
  | root :: others => root.entryLines ++ others.flatMap Section.lines

/-- The text of a file, its lines joined by a line end. -/
def File.render (f : File) (lineEnd : Text) : Text :=
  lineEnd.intercalate f.lines

/-! ## Writable files -/

/-- A text that stands on one line, without blank characters around it. -/
structure Compact (t : Text) : Prop where
  trimmed : trim t = t
  oneLine : '\n' ∉ t

instance (t : Text) : Decidable (Compact t) :=
  decidable_of_iff (trim t = t ∧ '\n' ∉ t) ⟨fun h => ⟨h.1, h.2⟩, fun h => ⟨h.1, h.2⟩⟩

structure WritableKey (key : Text) : Prop extends Compact key where
  nonempty : key ≠ []
  noSign : '=' ∉ key
  first : key.head? ∉ [some '#', some ';', some '[']

instance (key : Text) : Decidable (WritableKey key) :=
  decidable_of_iff
    (Compact key ∧ key ≠ [] ∧ '=' ∉ key ∧ key.head? ∉ [some '#', some ';', some '['])
    ⟨fun h => ⟨h.1, h.2.1, h.2.2.1, h.2.2.2⟩, fun h => ⟨h.1, h.2, h.3, h.4⟩⟩

structure Section.Writable (s : Section) : Prop where
  distinct : s.keys.Nodup
  keys : ∀ key ∈ s.keys, WritableKey key
  values : ∀ e ∈ s.entries, ∀ value ∈ e.2, Compact value

instance (s : Section) : Decidable s.Writable :=
  decidable_of_iff
    (s.keys.Nodup ∧ (∀ key ∈ s.keys, WritableKey key) ∧
      ∀ e ∈ s.entries, ∀ value ∈ e.2, Compact value)
    ⟨fun h => ⟨h.1, h.2.1, h.2.2⟩, fun h => ⟨h.1, h.2, h.3⟩⟩

/-- The first section is the root, and every other one has a name of its own. -/
structure File.Writable (f : File) : Prop where
  root : f.sections.head?.map Section.name = some []
  distinct : (f.sections.tail.map Section.name).Nodup
  names : ∀ s ∈ f.sections.tail, s.name ≠ [] ∧ Compact s.name
  sections : ∀ s ∈ f.sections, s.Writable

instance (f : File) : Decidable f.Writable :=
  decidable_of_iff
    (f.sections.head?.map Section.name = some [] ∧ (f.sections.tail.map Section.name).Nodup ∧
      (∀ s ∈ f.sections.tail, s.name ≠ [] ∧ Compact s.name) ∧ ∀ s ∈ f.sections, s.Writable)
    ⟨fun h => ⟨h.1, h.2.1, h.2.2.1, h.2.2.2⟩, fun h => ⟨h.1, h.2, h.3, h.4⟩⟩

end Stencil.Settings
