import Stencil.Proofs.Settings.Patterns
import Stencil.Proofs.Text.Cutting

/-!
Settings lines in plain words.  A line without a line feed is always read, and what it says is told
by its trimmed form: by its first and last characters and its first equals sign.
-/
namespace Stencil.Settings

open Text

namespace Line

variable {t : Text}

/-! ## Remarks and headers -/

theorem isRemark_iff :
    isRemark t ↔ t = [] ∨ (t.head? = some '#' ∨ t.head? = some ';') ∧ '\n' ∉ t := by
  cases t with
  | nil => simp [isRemark]
  | cons c cs => simp [isRemark, single_iff]

theorem head?_trimEnd (ink : ∀ c ∈ t.head?, isBlank c = false) : (trimEnd t).head? = t.head? := by
  cases t with
  | nil => rfl
  | cons c cs => rw [trimEnd_cons_of_ink (ink c rfl), List.head?_cons, List.head?_cons]

theorem header?_of_bracketed
    (clean : '\n' ∉ trimEnd t)
    (first : t.head? = some '[')
    (last : (trimEnd t).getLast? = some ']') :
    header? t = some (trim (trimEnd t).tail.dropLast) := by
  obtain ⟨cs, rfl⟩ := List.head?_eq_some_iff.1 first
  rcases closed_or_open cs with ⟨body, b, rfl, blank⟩ | opened
  · have whole : trimEnd ('[' :: (body ++ ']' :: b)) = '[' :: (body ++ [']']) :=
      trimEnd_closed ('[' :: body) blank
    have oneLine : single (trim body) := by
      rw [single_iff]
      intro member
      rw [whole] at clean
      exact clean (List.mem_cons_of_mem '[' (List.mem_append_left _ (mem_of_mem_trim member)))
    rw [header?_closed body blank, if_pos oneLine, whole, List.tail_cons, List.dropLast_concat]
  · rw [trimEnd_cons_of_ink (by decide), List.getLast?_cons] at last
    cases kept : (trimEnd cs).getLast? with
    | none =>
        rw [kept] at last
        cases last
    | some c =>
        rw [kept] at last
        exact absurd (kept.trans last) opened

theorem header?_eq_none
    (notBracketed : ¬ (t.head? = some '[' ∧ (trimEnd t).getLast? = some ']')) :
    header? t = none := by
  by_cases first : t.head? = some '['
  · obtain ⟨cs, rfl⟩ := List.head?_eq_some_iff.1 first
    refine header?_open fun closed => notBracketed ⟨first, ?_⟩
    rw [trimEnd_cons_of_ink (by decide), List.getLast?_cons, closed]
    rfl
  · unfold header?
    split
    · exact absurd rfl first
    · rfl

/-! ## Entries -/

theorem valueAfterKey?_of_ink
    {c : Char}
    (ink : isBlank c = false)
    (other : c ≠ '=')
    (rest : Text) :
    valueAfterKey? (c :: rest) = none := by
  simp [valueAfterKey?, trimStart_cons_of_ink ink, other]

theorem valueAfterKey?_of_blank
    {b : Text}
    (blank : ∀ c ∈ b, isBlank c) :
    valueAfterKey? b = some none := by
  rw [valueAfterKey?, trimStart_of_blank blank]

theorem valueAfterKey?_equals
    {b v : Text}
    (blank : ∀ c ∈ b, isBlank c)
    (clean : '\n' ∉ trim v) :
    valueAfterKey? (b ++ '=' :: v) = some (some (trim v)) := by
  have oneLine : single (trim v) := single_iff.2 clean
  rw [valueAfterKey?, trimStart_append_left blank, trimStart_cons_of_ink (by decide)]
  exact if_pos ⟨rfl, oneLine⟩

theorem entryFrom?_eq_groupFrom (t : Text) :
    entryFrom? [] t = groupFrom valueAfterKey? Line.entry t :=
  (passFewest_entry [] t).symm

/-- The key is trimmed and holds no equals sign. -/
theorem entryFrom?_of_key
    {key rest : Text}
    {value : Option Text}
    (trimmed : Trimmed key)
    (clean : '\n' ∉ key)
    (apart : '=' ∉ key)
    (follows : valueAfterKey? rest = some value) :
    entryFrom? [] (key ++ rest) = some (.entry key value) := by
  have skips : ∀ rest, valueAfterKey? (trimStart rest) = valueAfterKey? rest := by
    intro rest
    rw [valueAfterKey?, trimStart_trimStart, valueAfterKey?]
  rw [entryFrom?_eq_groupFrom, groupFrom_trimmed skips trimmed, if_pos (single_iff.2 clean),
    follows]
  · rfl
  · intro c member m ink
    exact valueAfterKey?_of_ink ink (fun same => apart (same ▸ member)) _
  · rw [follows]
    rfl

theorem entryFrom?_eq_plainEntry
    (clean : '\n' ∉ trimEnd t)
    (ink : ∀ c ∈ t.head?, isBlank c = false) :
    entryFrom? [] t = some (plainEntry (trimEnd t)) := by
  by_cases signed : '=' ∈ t
  · obtain ⟨k, v, rfl, apart⟩ := List.eq_append_cons_of_mem signed
    obtain ⟨b, parts, blank⟩ := exists_trimEnd k
    have start : trimStart k = k := by
      refine trimStart_of_first fun c first => ink c ?_
      rw [List.head?_append, first]
      rfl
    have key : trimEnd k = trim k := by rw [trim, start]
    rw [trimEnd_append_cons (by decide), List.mem_append, List.mem_cons, not_or, not_or] at clean
    have cleanValue : '\n' ∉ trim v := by
      rw [← trim_trimEnd]
      exact fun member => clean.2.2 (mem_of_mem_trim member)
    have read : entryFrom? [] (trim k ++ (b ++ '=' :: v)) =
        some (.entry (trim k) (some (trim v))) :=
      entryFrom?_of_key (trimmed_trim k) (fun member => clean.1 (mem_of_mem_trim member))
        (fun member => apart (mem_of_mem_trim member)) (valueAfterKey?_equals blank cleanValue)
    rw [← List.append_assoc, ← key, ← parts] at read
    rw [read, trimEnd_append_cons (by decide), plainEntry, cut?_append apart, key]
    simp only [trim_trimEnd]
  · obtain ⟨b, parts, blank⟩ := exists_trimEnd t
    have trimmed : Trimmed (trimEnd t) :=
      ⟨fun c first => ink c (head?_trimEnd ink ▸ first), getLast?_trimEnd t⟩
    have inside : ∀ c ∈ trimEnd t, c ∈ t := by
      intro c member
      rw [parts]
      exact List.mem_append_left b member
    have apart : '=' ∉ trimEnd t := fun member => signed (inside _ member)
    have read : entryFrom? [] (trimEnd t ++ b) = some (.entry (trimEnd t) none) :=
      entryFrom?_of_key trimmed clean apart (valueAfterKey?_of_blank blank)
    rw [← parts] at read
    rw [read, plainEntry, cut?_of_not_mem apart]

/-! ## Lines -/

theorem plain_congr
    {line other : Text}
    (same : trim line = trim other) :
    plain line = plain other := by
  rw [plain, same, plain]

theorem plain_append_left
    {a : Text}
    (blank : ∀ c ∈ a, isBlank c)
    (line : Text) :
    plain (a ++ line) = plain line :=
  plain_congr (trim_append_left blank line)

theorem plain_append_right
    {b : Text}
    (blank : ∀ c ∈ b, isBlank c)
    (line : Text) :
    plain (line ++ b) = plain line :=
  plain_congr (trim_append_right blank line)

/-- A line may have its line end, unless it is a remark. -/
theorem read?_eq_plain_of_trim
    {line : Text}
    (clean : '\n' ∉ trim line)
    (whole : (trimStart line).head? = some '#' ∨ (trimStart line).head? = some ';' →
      '\n' ∉ trimStart line) :
    read? line = some (plain line) := by
  have first := head?_trimEnd (head?_trimStart line)
  have empty : trim line = [] ↔ trimStart line = [] := by
    rw [← List.head?_eq_none_iff, ← List.head?_eq_none_iff, trim, first]
  have remark : isRemark (trimStart line) ↔ trimStart line = [] ∨
      (trimStart line).head? = some '#' ∨ (trimStart line).head? = some ';' := by
    rw [isRemark_iff]
    exact or_congr_right (and_iff_left_of_imp whole)
  simp only [read?, plain, empty]
  rw [trim, first]
  by_cases said : isRemark (trimStart line)
  · rw [if_pos said, if_pos (remark.1 said)]
  · rw [if_neg said, if_neg fun condition => said (remark.2 condition)]
    by_cases bracketed :
        (trimStart line).head? = some '[' ∧ (trimEnd (trimStart line)).getLast? = some ']'
    · rw [header?_of_bracketed clean bracketed.1 bracketed.2, if_pos bracketed]
    · rw [header?_eq_none bracketed, if_neg bracketed]
      exact entryFrom?_eq_plainEntry clean (head?_trimStart line)

theorem read?_eq_plain
    {line : Text}
    (clean : '\n' ∉ line) :
    read? line = some (plain line) :=
  read?_eq_plain_of_trim (fun member => clean (mem_of_mem_trim member)) fun _ member =>
    clean ((List.dropWhile_suffix isBlank).subset member)

/-! ## The plain form -/

theorem head?_trim (t : Text) : (trim t).head? = (trimStart t).head? :=
  head?_trimEnd (head?_trimStart t)

theorem head?_trim_append
    {a : Text}
    (some_ink : trim a ≠ [])
    (t : Text) :
    (trim (a ++ t)).head? = (trim a).head? := by
  have inked : trimStart a ≠ [] := by
    intro empty
    rw [trim, empty] at some_ink
    exact some_ink rfl
  obtain ⟨c, rest, parts⟩ := List.exists_cons_of_ne_nil inked
  rw [head?_trim, head?_trim, trimStart_append_right inked, parts]
  rfl

theorem plainEntry_ne_remark (t : Text) : plainEntry t ≠ .remark := by
  unfold plainEntry
  split <;> exact nofun

theorem plain_eq_remark_iff (line : Text) :
    plain line = .remark ↔
      trim line = [] ∨ (trim line).head? = some '#' ∨ (trim line).head? = some ';' := by
  simp only [plain]
  split
  · next said => exact iff_of_true rfl said
  · next other =>
      refine iff_of_false ?_ other
      split
      · exact nofun
      · exact plainEntry_ne_remark _

theorem plain_cases (line : Text) :
    plain line = .remark ∨
      (∃ name, trim line = '[' :: (name ++ [']']) ∧ plain line = .header (trim name)) ∨
      (∃ key value, trim line = key ++ '=' :: value ∧
        plain line = .entry (trim key) (some (trim value))) ∨
      plain line = .entry (trim line) none := by
  simp only [plain]
  split
  · exact .inl rfl
  · split
    · next bracketed =>
        obtain ⟨rest, parts⟩ := List.head?_eq_some_iff.1 bracketed.1
        have last : rest.getLast? = some ']' := by
          have last := bracketed.2
          rw [parts, List.getLast?_cons] at last
          cases kept : rest.getLast? with
          | none =>
              rw [kept] at last
              exact absurd last (by decide)
          | some c =>
              rw [kept] at last
              exact last
        obtain ⟨name, rfl⟩ := List.getLast?_eq_some_iff.1 last
        refine .inr (.inl ⟨name, parts, ?_⟩)
        rw [parts, List.tail_cons, List.dropLast_concat]
    · by_cases signed : '=' ∈ trim line
      · obtain ⟨key, value, parts, apart⟩ := List.eq_append_cons_of_mem signed
        refine .inr (.inr (.inl ⟨key, value, parts, ?_⟩))
        rw [parts, plainEntry, cut?_append apart]
      · refine .inr (.inr (.inr ?_))
        rw [plainEntry, cut?_of_not_mem signed]

end Line

end Stencil.Settings
