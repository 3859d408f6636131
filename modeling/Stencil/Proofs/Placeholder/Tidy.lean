import Stencil.Proofs.Placeholder.Scan

/-!
Tidy templates: every brace belongs to a placeholder.  Tidy texts can be joined without a new
placeholder at the joint, and a tidy template is what its text is cut into.
-/
namespace Stencil.Template

open Placeholder

/-- A text without braces. -/
def Plain (t : Text) : Prop :=
  '{' ∉ t ∧ '}' ∉ t

/-- Every brace belongs to a placeholder. -/
def Tidy (t : Template) : Prop :=
  (∀ cut ∈ t.cuts, Plain cut.literal) ∧ Plain t.rest

instance (t : Text) : Decidable (Plain t) :=
  inferInstanceAs (Decidable (_ ∧ _))

instance (t : Template) : Decidable t.Tidy :=
  inferInstanceAs (Decidable (_ ∧ _))

theorem plain_append {a b : Text} : Plain (a ++ b) ↔ Plain a ∧ Plain b := by
  simp only [Plain, List.mem_append, not_or]
  exact and_and_and_comm

/-! ## Joined templates -/

@[simp]
theorem names_literal (t : Text) : names ⟨[], t⟩ = [] :=
  rfl

@[simp]
theorem names_cut (cut : Cut) (cuts : List Cut) (rest : Text) :
    names ⟨cut :: cuts, rest⟩ = cut.name :: names ⟨cuts, rest⟩ :=
  rfl

@[simp]
theorem names_append (a b : Template) : (append a b).names = a.names ++ b.names := by
  obtain ⟨cuts, rest⟩ := b
  cases cuts <;> simp [append, names]

theorem tidy_append {a b : Template} : (append a b).Tidy ↔ a.Tidy ∧ b.Tidy := by
  obtain ⟨cuts, rest⟩ := a
  obtain ⟨cuts', rest'⟩ := b
  cases cuts' with
  | nil =>
      simp only [append, Tidy, plain_append, List.not_mem_nil, false_implies, implies_true,
        true_and]
      exact and_assoc.symm
  | cons cut cuts' =>
      simp only [append, Tidy, List.forall_mem_append, List.forall_mem_cons, plain_append,
        and_assoc]

theorem tidy_literal {t : Text} : Tidy ⟨[], t⟩ ↔ Plain t := by
  simp [Tidy]

theorem tidy_cons {c : Char} {t : Template} : (cons c t).Tidy ↔ Plain [c] ∧ t.Tidy := by
  rw [cons_eq_append, tidy_append, tidy_literal]

theorem tidy_consName {name : Text} {t : Template} : (consName name t).Tidy ↔ t.Tidy := by
  simp [consName, Tidy, Plain]

theorem tidy_tail
    {cut : Cut}
    {cuts : List Cut}
    {rest : Text}
    (tidy : Tidy ⟨cut :: cuts, rest⟩) :
    Plain cut.literal ∧ Tidy ⟨cuts, rest⟩ :=
  ⟨tidy.1 cut List.mem_cons_self,
    fun other member => tidy.1 other (List.mem_cons_of_mem cut member), tidy.2⟩

/-! ## Joined texts -/

theorem scan_append_of_tidy
    {a : Text}
    (tidy : (scan a).Tidy)
    (b : Text) :
    scan (a ++ b) = append (scan a) (scan b) := by
  induction a using scanInduction with
  | nil => exact (nil_append _).symm
  | literal c a literal ih =>
      rw [scan_cons literal, tidy_cons] at tidy
      have literal' : IsLiteral c (a ++ b) := by
        rintro rfl
        exact absurd tidy.1 (by decide)
      rw [List.cons_append, scan_cons literal', scan_cons literal, cons_append, ih tidy.2]
  | placeholder name a named ih =>
      rw [scan_wrap named, tidy_consName] at tidy
      rw [List.append_assoc, scan_wrap named, scan_wrap named, consName_append, ih tidy]

theorem scan_literal_wrap
    {literal name : Text}
    (plain : Plain literal)
    (named : isName name)
    (rest : Text) :
    scan (literal ++ wrap name ++ rest) = append ⟨[], literal⟩ (consName name (scan rest)) := by
  rw [List.append_assoc, scan_append_of_no_brace plain.1, scan_wrap named]

/-- A tidy template with names in its placeholders is what its text is cut into. -/
theorem scan_render
    {cuts : List Cut}
    {rest : Text}
    (tidy : Tidy ⟨cuts, rest⟩)
    (named : ∀ cut ∈ cuts, isName cut.name) :
    scan (render ⟨cuts, rest⟩) = ⟨cuts, rest⟩ := by
  induction cuts with
  | nil => exact scan_of_no_brace tidy.2.1
  | cons cut cuts ih =>
      obtain ⟨plain, later⟩ := tidy_tail tidy
      have first : isName cut.name := named cut List.mem_cons_self
      have rendered : render ⟨cut :: cuts, rest⟩ =
          cut.literal ++ wrap cut.name ++ render ⟨cuts, rest⟩ := by
        simp [render]
      rw [rendered, scan_literal_wrap plain first,
        ih later fun other member => named other (List.mem_cons_of_mem cut member)]
      simp [append, consName]

end Stencil.Template
