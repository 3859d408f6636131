import Stencil.Placeholder.Template

/-!
How a text is cut at its placeholders.  A text is nothing, or a literal character before a text, or
a placeholder before a text, and the scan follows these three cases.  A character that can stand in
no placeholder is a seam: the texts around it are cut independently.
-/
namespace Stencil

open Placeholder

namespace Placeholder

theorem isNameChar_closeBrace : isNameChar '}' = false := by
  decide

theorem isNameChar_lineFeed : isNameChar '\n' = false := by
  decide

theorem isNameChar_of_mem
    {name : Text}
    (named : isName name)
    {c : Char}
    (member : c ∈ name) :
    isNameChar c := by
  simp only [isName, Bool.and_eq_true, List.all_eq_true] at named
  exact named.2 c member

theorem not_mem_of_isName
    {name : Text}
    (named : isName name)
    {c : Char}
    (other : isNameChar c = false) :
    c ∉ name := by
  intro member
  rw [isNameChar_of_mem named member] at other
  cases other

end Placeholder

namespace Template

/-! ## Names after a brace -/

theorem nameAfterBrace?_closed
    {name : Text}
    (named : isName name)
    (rest : Text) :
    nameAfterBrace? (name ++ '}' :: rest) = some name := by
  have inside : ∀ c ∈ name, isNameChar c := fun c member => isNameChar_of_mem named member
  have taken : (name ++ '}' :: rest).takeWhile isNameChar = name := by
    rw [List.takeWhile_append_of_pos inside]
    simp [isNameChar_closeBrace]
  simp only [isName, Bool.and_eq_true] at named
  simp [nameAfterBrace?, taken, named.1]

/-- An opening brace begins a placeholder exactly when a name and a closing brace follow it. -/
theorem nameAfterBrace?_eq_some_iff
    {t name : Text} :
    nameAfterBrace? t = some name ↔ isName name ∧ ∃ rest, t = name ++ '}' :: rest := by
  constructor
  · intro found
    simp only [nameAfterBrace?, Option.ite_none_right_eq_some, Option.some.injEq,
      Bool.and_eq_true, beq_iff_eq] at found
    obtain ⟨⟨nonempty, brace⟩, rfl⟩ := found
    obtain ⟨rest, dropped⟩ := List.head?_eq_some_iff.1 brace
    have joined := List.prefix_iff_eq_append.1 (List.takeWhile_prefix isNameChar (l := t))
    refine ⟨?_, rest, ?_⟩
    · simpa [isName] using nonempty
    · rw [← dropped, joined]
  · rintro ⟨named, rest, rfl⟩
    exact nameAfterBrace?_closed named rest

/-- A character that can stand in no placeholder, and whatever follows it, does not decide which
placeholder an earlier brace begins. -/
theorem nameAfterBrace?_append
    (t rest : Text)
    {c : Char}
    (other : isNameChar c = false)
    (notClosing : c ≠ '}') :
    nameAfterBrace? (t ++ c :: rest) = nameAfterBrace? t := by
  ext name
  rw [nameAfterBrace?_eq_some_iff, nameAfterBrace?_eq_some_iff]
  refine and_congr_right fun named => ?_
  have absent : c ∉ name := not_mem_of_isName named other
  constructor
  · rintro ⟨after, joined⟩
    rcases List.append_eq_append_iff.1 joined with ⟨more, rfl, closed⟩ | ⟨more, rfl, closed⟩
    -- The name would reach over the seam.
    · cases more with
      | nil => cases closed; exact absurd rfl notClosing
      | cons d more => cases closed; simp at absent
    · cases more with
      | nil => cases closed; exact absurd rfl notClosing
      | cons d more => cases closed; exact ⟨more, rfl⟩
  · rintro ⟨after, rfl⟩
    exact ⟨after ++ c :: rest, by simp⟩

/-! ## The three cases of a scan -/

theorem scanFrom_drop (skip : Nat) (t : Text) : scanFrom skip t = scan (t.drop skip) := by
  induction skip generalizing t with
  | zero => rfl
  | succ skip ih =>
      cases t with
      | nil => rfl
      | cons c cs => exact ih cs

/-- A character that begins no placeholder is literal. -/
def IsLiteral (c : Char) (rest : Text) : Prop :=
  c = '{' → nameAfterBrace? rest = none

@[simp]
theorem scan_nil : scan [] = ⟨[], []⟩ :=
  rfl

theorem scan_cons
    {c : Char}
    {rest : Text}
    (literal : IsLiteral c rest) :
    scan (c :: rest) = cons c (scan rest) := by
  by_cases brace : c = '{'
  · simp [scan, scanFrom, brace, literal brace]
  · simp [scan, scanFrom, brace]

theorem scan_wrap
    {name : Text}
    (named : isName name)
    (rest : Text) :
    scan (wrap name ++ rest) = consName name (scan rest) := by
  have found := nameAfterBrace?_closed named rest
  have dropped : (name ++ '}' :: rest).drop (name.length + 1) = rest := by
    simp [← List.drop_drop]
  have skipped : scanFrom (name.length + 1) (name ++ '}' :: rest) = scan rest := by
    rw [scanFrom_drop, dropped]
  simp [scan, scanFrom, wrap, found, skipped]

/-- Every text is nothing, a literal character before a text, or a placeholder before a text. -/
@[elab_as_elim]
theorem scanInduction
    {motive : Text → Prop}
    (nil : motive [])
    (literal : ∀ c rest, IsLiteral c rest → motive rest → motive (c :: rest))
    (placeholder : ∀ name rest, isName name → motive rest → motive (wrap name ++ rest))
    (t : Text) :
    motive t := by
  induction size : t.length using Nat.strongRecOn generalizing t with
  | ind bound ih =>
      subst size
      cases t with
      | nil => exact nil
      | cons c rest =>
          by_cases plain : IsLiteral c rest
          · exact literal c rest plain (ih rest.length (Nat.lt_succ_self _) rest rfl)
          · obtain ⟨rfl, found⟩ := Classical.not_imp.1 plain
            obtain ⟨name, found⟩ := Option.ne_none_iff_exists'.1 found
            obtain ⟨named, after, rfl⟩ := nameAfterBrace?_eq_some_iff.1 found
            have shorter : after.length < ('{' :: (name ++ '}' :: after)).length := by
              simp only [List.length_cons, List.length_append]
              omega
            simpa [wrap] using placeholder name after named (ih after.length shorter after rfl)

/-! ## What a cut text keeps -/

@[simp]
theorem render_cons (c : Char) (t : Template) : (cons c t).render = c :: t.render := by
  obtain ⟨cuts, rest⟩ := t
  cases cuts <;> simp [cons, render]

@[simp]
theorem render_consName (name : Text) (t : Template) :
    (consName name t).render = wrap name ++ t.render := by
  simp [consName, render]

@[simp]
theorem render_scan (t : Text) : (scan t).render = t := by
  induction t using scanInduction with
  | nil => rfl
  | literal c rest literal ih => rw [scan_cons literal, render_cons, ih]
  | placeholder name rest named ih => rw [scan_wrap named, render_consName, ih]

@[simp]
theorem names_cons (c : Char) (t : Template) : (cons c t).names = t.names := by
  obtain ⟨cuts, rest⟩ := t
  cases cuts <;> simp [cons, names]

@[simp]
theorem names_consName (name : Text) (t : Template) :
    (consName name t).names = name :: t.names := by
  simp [consName, names]

theorem isName_of_mem_names
    {t name : Text}
    (member : name ∈ (scan t).names) :
    isName name := by
  induction t using scanInduction with
  | nil => cases member
  | literal c rest literal ih =>
      rw [scan_cons literal, names_cons] at member
      exact ih member
  | placeholder first rest named ih =>
      rw [scan_wrap named, names_consName] at member
      rcases List.mem_cons.1 member with rfl | later
      · exact named
      · exact ih later

theorem isName_of_mem_cuts
    {t : Text}
    {cut : Cut}
    (member : cut ∈ (scan t).cuts) :
    isName cut.name :=
  isName_of_mem_names (List.mem_map_of_mem member)

/-! ## Seams -/

def append (a b : Template) : Template :=
  match b.cuts with
  | [] => ⟨a.cuts, a.rest ++ b.rest⟩
  | cut :: cuts => ⟨a.cuts ++ { cut with literal := a.rest ++ cut.literal } :: cuts, b.rest⟩

theorem nil_append (t : Template) : append ⟨[], []⟩ t = t := by
  obtain ⟨cuts, rest⟩ := t
  cases cuts <;> simp [append]

theorem cons_append (c : Char) (a b : Template) :
    append (cons c a) b = cons c (append a b) := by
  obtain ⟨cuts, rest⟩ := a
  obtain ⟨cuts', rest'⟩ := b
  cases cuts <;> cases cuts' <;> simp [append, cons]

theorem consName_append (name : Text) (a b : Template) :
    append (consName name a) b = consName name (append a b) := by
  obtain ⟨cuts', rest'⟩ := b
  cases cuts' <;> simp [append, consName]

theorem cons_eq_append (c : Char) (t : Template) : cons c t = append ⟨[], [c]⟩ t := by
  obtain ⟨cuts, rest⟩ := t
  cases cuts <;> simp [append, cons]

/-- A text can be cut before any character that can stand in no placeholder but at its start. -/
theorem scan_append
    (a rest : Text)
    {c : Char}
    (other : isNameChar c = false)
    (notClosing : c ≠ '}') :
    scan (a ++ c :: rest) = append (scan a) (scan (c :: rest)) := by
  induction a using scanInduction with
  | nil => exact (nil_append _).symm
  | literal d a literal ih =>
      have literal' : IsLiteral d (a ++ c :: rest) := by
        intro brace
        rw [nameAfterBrace?_append a rest other notClosing, literal brace]
      rw [List.cons_append, scan_cons literal', scan_cons literal, cons_append, ih]
  | placeholder name a named ih =>
      rw [List.append_assoc, scan_wrap named, scan_wrap named, consName_append, ih]

/-- A text without an opening brace stays in front of what follows it. -/
theorem scan_append_of_no_brace
    {a : Text}
    (plain : '{' ∉ a)
    (rest : Text) :
    scan (a ++ rest) = append ⟨[], a⟩ (scan rest) := by
  induction a with
  | nil => exact (nil_append _).symm
  | cons c a ih =>
      have literal : IsLiteral c (a ++ rest) := by
        rintro rfl
        simp at plain
      have later : '{' ∉ a := fun member => plain (List.mem_cons_of_mem c member)
      rw [List.cons_append, scan_cons literal, ih later, ← cons_append]
      rfl

theorem scan_of_no_brace
    {t : Text}
    (plain : '{' ∉ t) :
    scan t = ⟨[], t⟩ := by
  have alone := scan_append_of_no_brace plain []
  simpa [append] using alone

/-- A line feed is a seam. -/
theorem scan_append_feed (a rest : Text) :
    scan (a ++ '\n' :: rest) = append (scan a) (append ⟨[], ['\n']⟩ (scan rest)) := by
  have feedLiteral : IsLiteral '\n' rest := by
    intro brace
    cases brace
  rw [scan_append a rest isNameChar_lineFeed (by decide), scan_cons feedLiteral, cons_eq_append]

end Template

end Stencil
