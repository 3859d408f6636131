import Mathlib.Data.List.TakeWhile
import Stencil.Text.Blank

/-!
Trimming.  A text is its trimmed form between blank characters, and blank characters put around a
text do not change its trimmed form.
-/
namespace Stencil.Text

variable {t a b : Text}

/-- The first and the last character, if there are any, are not blank. -/
structure Trimmed (t : Text) : Prop where
  first : ∀ c ∈ t.head?, isBlank c = false
  last : ∀ c ∈ t.getLast?, isBlank c = false

/-! ## Items of a class -/

/-- What stands before the first item outside a class is taken, and no more. -/
theorem takeWhile_append_of_ends
    {α : Type}
    {inClass : α → Bool}
    {a rest : List α}
    (inside : ∀ c ∈ a, inClass c)
    (ends : ∀ c ∈ rest.head?, inClass c = false) :
    (a ++ rest).takeWhile inClass = a := by
  rw [List.takeWhile_append_of_pos inside]
  cases rest with
  | nil => exact List.append_nil a
  | cons c rest =>
      rw [List.takeWhile_cons_of_neg, List.append_nil]
      rw [ends c rfl]
      exact Bool.false_ne_true

/-! ## One end -/

theorem trimStart_of_blank (blank : ∀ c ∈ a, isBlank c) : trimStart a = [] :=
  List.dropWhile_eq_nil_iff.2 blank

theorem trimStart_append_left
    (blank : ∀ c ∈ a, isBlank c)
    (t : Text) :
    trimStart (a ++ t) = trimStart t :=
  List.dropWhile_append_of_pos blank

theorem trimStart_cons_of_ink
    {c : Char}
    (ink : isBlank c = false)
    (t : Text) :
    trimStart (c :: t) = c :: t := by
  simp [trimStart, ink]

theorem trimStart_of_first (ink : ∀ c ∈ t.head?, isBlank c = false) : trimStart t = t := by
  cases t with
  | nil => rfl
  | cons c cs => exact trimStart_cons_of_ink (ink c rfl) cs

theorem trimStart_append_right
    (some_ink : trimStart a ≠ [])
    (t : Text) :
    trimStart (a ++ t) = trimStart a ++ t :=
  List.dropWhile_append.trans (if_neg fun empty => some_ink (List.isEmpty_iff.1 empty))

theorem head?_trimStart (t : Text) : ∀ c ∈ (trimStart t).head?, isBlank c = false := by
  intro c first
  have checked := List.head?_dropWhile_not isBlank t
  rw [trimStart] at first
  rw [first] at checked
  simpa using checked

theorem exists_trimStart (t : Text) :
    ∃ a, t = a ++ trimStart t ∧ ∀ c ∈ a, isBlank c :=
  ⟨t.takeWhile isBlank, List.takeWhile_append_dropWhile.symm,
    List.all_eq_true.1 List.all_takeWhile⟩

theorem trimEnd_eq_reverse (t : Text) : trimEnd t = (trimStart t.reverse).reverse :=
  rfl

theorem trimEnd_append_right
    (blank : ∀ c ∈ b, isBlank c)
    (t : Text) :
    trimEnd (t ++ b) = trimEnd t := by
  have reversed : ∀ c ∈ b.reverse, isBlank c := fun c member => blank c (List.mem_reverse.1 member)
  rw [trimEnd_eq_reverse, List.reverse_append, trimStart_append_left reversed, trimEnd_eq_reverse]

theorem trimEnd_of_blank (blank : ∀ c ∈ b, isBlank c) : trimEnd b = [] :=
  trimEnd_append_right blank []

theorem trimEnd_of_last (ink : ∀ c ∈ t.getLast?, isBlank c = false) : trimEnd t = t := by
  rw [trimEnd_eq_reverse]
  rcases list : t.reverse with _ | ⟨c, cs⟩
  · simpa [trimStart] using list
  · have last : c ∈ t.getLast? := by
      rw [← List.head?_reverse, list]
      exact rfl
    rw [trimStart_cons_of_ink (ink c last), ← list, List.reverse_reverse]

theorem getLast?_trimEnd (t : Text) : ∀ c ∈ (trimEnd t).getLast?, isBlank c = false := by
  intro c last
  rw [trimEnd_eq_reverse, List.getLast?_reverse] at last
  exact head?_trimStart t.reverse c last

theorem exists_trimEnd (t : Text) :
    ∃ b, t = trimEnd t ++ b ∧ ∀ c ∈ b, isBlank c := by
  obtain ⟨a, parts, blank⟩ := exists_trimStart t.reverse
  refine ⟨a.reverse, ?_, fun c member => blank c (List.mem_reverse.1 member)⟩
  rw [trimEnd_eq_reverse, ← List.reverse_append, ← parts, List.reverse_reverse]

theorem trimEnd_append_cons
    {c : Char}
    (ink : isBlank c = false)
    (a t : Text) :
    trimEnd (a ++ c :: t) = a ++ c :: trimEnd t := by
  obtain ⟨b, parts, blank⟩ := exists_trimEnd t
  have last : ∀ d ∈ (a ++ c :: trimEnd t).getLast?, isBlank d = false := by
    intro d found
    rw [List.getLast?_append, List.getLast?_cons, Option.some_or, Option.mem_some_iff] at found
    cases kept : (trimEnd t).getLast? with
    | none =>
        rw [kept] at found
        exact found ▸ ink
    | some e =>
        rw [kept] at found
        exact found ▸ getLast?_trimEnd t e kept
  conv => lhs; rw [parts]
  rw [← List.cons_append, ← List.append_assoc, trimEnd_append_right blank, trimEnd_of_last last]

theorem trimEnd_cons_of_ink
    {c : Char}
    (ink : isBlank c = false)
    (t : Text) :
    trimEnd (c :: t) = c :: trimEnd t :=
  trimEnd_append_cons ink [] t

/-! ## Both ends -/

theorem trim_of_blank (blank : ∀ c ∈ a, isBlank c) : trim a = [] := by
  rw [trim, trimStart_of_blank blank]
  rfl

theorem trim_append_left
    (blank : ∀ c ∈ a, isBlank c)
    (t : Text) :
    trim (a ++ t) = trim t := by
  rw [trim, trimStart_append_left blank, trim]

theorem trim_append_right
    (blank : ∀ c ∈ b, isBlank c)
    (t : Text) :
    trim (t ++ b) = trim t := by
  by_cases none : trimStart t = []
  · have blankLeft : ∀ c ∈ t, isBlank c := List.dropWhile_eq_nil_iff.1 none
    rw [trim_append_left blankLeft, trim_of_blank blank, trim_of_blank blankLeft]
  · rw [trim, trimStart_append_right none, trimEnd_append_right blank, trim]

theorem trimStart_trimStart (t : Text) : trimStart (trimStart t) = trimStart t :=
  trimStart_of_first (head?_trimStart t)

/-- The last character of a trimmed text stands at the end of what is left of it. -/
theorem trimStart_ne_nil_of_suffix
    (trimmed : Trimmed t)
    {m : Text}
    (some_left : m ≠ [])
    (inside : m <:+ t) :
    trimStart m ≠ [] := by
  intro none
  have found := List.getLast?_eq_some_getLast some_left
  have last : m.getLast some_left ∈ t.getLast? := by
    obtain ⟨front, rfl⟩ := inside
    rw [List.getLast?_append, found]
    rfl
  have blank := List.dropWhile_eq_nil_iff.1 none _ (List.mem_of_getLast? found)
  rw [trimmed.last _ last] at blank
  cases blank

theorem trim_trimEnd (t : Text) : trim (trimEnd t) = trim t := by
  obtain ⟨b, parts, blank⟩ := exists_trimEnd t
  conv => rhs; rw [parts]
  exact (trim_append_right blank _).symm

theorem trim_of_trimmed (trimmed : Trimmed t) : trim t = t := by
  cases t with
  | nil => rfl
  | cons c cs =>
      rw [trim, trimStart_cons_of_ink (trimmed.first c rfl), trimEnd_of_last trimmed.last]

theorem exists_trim (t : Text) :
    ∃ a b, t = a ++ trim t ++ b ∧ (∀ c ∈ a, isBlank c) ∧ ∀ c ∈ b, isBlank c := by
  obtain ⟨a, front, blankFront⟩ := exists_trimStart t
  obtain ⟨b, back, blankBack⟩ := exists_trimEnd (trimStart t)
  refine ⟨a, b, ?_, blankFront, blankBack⟩
  rw [List.append_assoc, trim, ← back]
  exact front

theorem trimmed_trim (t : Text) : Trimmed (trim t) := by
  refine ⟨?_, getLast?_trimEnd (trimStart t)⟩
  intro c first
  obtain ⟨b, back, _⟩ := exists_trimEnd (trimStart t)
  have first' : (trimEnd (trimStart t)).head? = some c := first
  refine head?_trimStart t c ?_
  rw [back, List.head?_append, first']
  rfl

theorem trim_trim (t : Text) : trim (trim t) = trim t :=
  trim_of_trimmed (trimmed_trim t)

theorem trim_eq_nil_iff : trim t = [] ↔ ∀ c ∈ t, isBlank c := by
  refine ⟨fun none => ?_, trim_of_blank⟩
  obtain ⟨a, b, parts, blankFront, blankBack⟩ := exists_trim t
  rw [none, List.append_nil] at parts
  rw [parts]
  exact List.forall_mem_append.2 ⟨blankFront, blankBack⟩

/-- A text without blank ends is found again between blank characters. -/
theorem mem_of_mem_trim {c : Char} (member : c ∈ trim t) : c ∈ t := by
  obtain ⟨a, b, parts, _⟩ := exists_trim t
  rw [parts]
  exact List.mem_append_left b (List.mem_append_right a member)

end Stencil.Text
