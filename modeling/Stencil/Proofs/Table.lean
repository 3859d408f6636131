import Mathlib.Data.List.Induction
import Mathlib.Data.List.Nodup
import Mathlib.Logic.Function.Basic
import Stencil.Table

/-!
Tables by their names.  A table is its names in order with one entry each, and putting an entry
changes one name, which goes to the end when it is new.
-/
namespace Stencil

/-! ## First appearances -/

section FirstAppearances

variable {α : Type} [BEq α] [LawfulBEq α]

theorem eraseDups_concat (l : List α) (a : α) :
    (l ++ [a]).eraseDups = if a ∈ l then l.eraseDups else l.eraseDups ++ [a] := by
  rw [List.eraseDups_append]
  by_cases known : a ∈ l <;> simp [List.removeAll, known, List.eraseDups_cons]

theorem nodup_eraseDups (l : List α) : l.eraseDups.Nodup := by
  induction l using List.reverseRecOn with
  | nil => simp
  | append_singleton l a ih =>
      rw [eraseDups_concat]
      split
      · exact ih
      · next unknown =>
          have apart : a ∉ l.eraseDups := fun member => unknown (List.mem_eraseDups.1 member)
          rw [← List.concat_eq_append]
          exact ih.concat apart

/-- What first appears earlier in a list stays earlier. -/
theorem pairwise_idxOf_eraseDups (l : List α) :
    l.eraseDups.Pairwise fun a b => l.idxOf a < l.idxOf b := by
  induction l using List.reverseRecOn with
  | nil => exact List.Pairwise.nil
  | append_singleton l a ih =>
      have place : ∀ b ∈ l.eraseDups, (l ++ [a]).idxOf b = l.idxOf b :=
        fun b member => List.idxOf_append_of_mem (List.mem_eraseDups.1 member)
      have kept : l.eraseDups.Pairwise fun b c => (l ++ [a]).idxOf b < (l ++ [a]).idxOf c := by
        refine ih.imp_of_mem fun inFront inBack earlier => ?_
        rwa [place _ inFront, place _ inBack]
      rw [eraseDups_concat]
      split
      · exact kept
      · next unknown =>
          refine List.pairwise_append.2 ⟨kept, List.pairwise_singleton _ _, ?_⟩
          intro b member c last
          obtain rfl := List.mem_singleton.1 last
          have inside := List.idxOf_lt_length_of_mem (List.mem_eraseDups.1 member)
          rw [place b member, List.idxOf_append_of_notMem unknown]
          exact Nat.lt_add_right _ inside

theorem eraseDups_prefix (l m : List α) : l.eraseDups <+: (l ++ m).eraseDups := by
  rw [List.eraseDups_append]
  exact List.prefix_append _ _

end FirstAppearances

namespace Table

variable {α : Type}

/-! ## Any table -/

theorem isSome_get? {t : Table α} {name : Text} : (t.get? name).isSome ↔ name ∈ t.names := by
  simp [get?, names]

theorem get?_eq_none {t : Table α} {name : Text} : t.get? name = none ↔ name ∉ t.names := by
  rw [← isSome_get?, Option.not_isSome_iff_eq_none]

theorem put_of_not_mem
    {t : Table α}
    {name : Text}
    (unknown : name ∉ t.names)
    (value : α) :
    t.put name value = t ++ [(name, value)] := by
  induction t with
  | nil => rfl
  | cons e t ih =>
      rw [names, List.map_cons, List.mem_cons, not_or] at unknown
      rw [put, if_neg (Ne.symm unknown.1), ih unknown.2, List.cons_append]

theorem get?_cons (e : Text × α) (t : Table α) (name : Text) :
    get? (e :: t) name = if e.1 = name then some e.2 else get? t name := by
  by_cases same : e.1 = name <;> simp [get?, same]

theorem get?_put (t : Table α) (name other : Text) (value : α) :
    (t.put name value).get? other = if name = other then some value else t.get? other := by
  induction t with
  | nil => rw [put, get?_cons]
  | cons e t ih =>
      rw [put]
      by_cases same : e.1 = name
      · rw [if_pos same, get?_cons, get?_cons, same]
        split <;> rfl
      · rw [if_neg same, get?_cons, ih, get?_cons]
        by_cases asked : e.1 = other
        · rw [if_pos asked, if_pos asked, if_neg]
          exact fun found => same (asked.trans found.symm)
        · rw [if_neg asked, if_neg asked]

theorem put_put (t : Table α) (name : Text) (old value : α) :
    (t.put name old).put name value = t.put name value := by
  induction t with
  | nil => simp [put]
  | cons e t ih =>
      by_cases same : e.1 = name
      · simp [put, same]
      · simp [put, same, ih]

theorem get?_ofPairs (pairs : List (Text × α)) (name : Text) :
    (ofPairs pairs).get? name = (pairs.reverse.find? fun e => e.1 == name).map Prod.snd := by
  induction pairs using List.reverseRecOn with
  | nil => rfl
  | append_singleton pairs e ih =>
      rw [ofPairs, List.foldl_append, ← ofPairs, List.foldl_cons, List.foldl_nil, get?_put, ih,
        List.reverse_append, List.reverse_singleton, List.singleton_append, List.find?_cons]
      by_cases same : e.1 = name
      · rw [if_pos same, beq_iff_eq.2 same]
        rfl
      · rw [if_neg same, beq_false_of_ne same]

/-! ## Tables of functions -/

variable {names : List Text} {entry other : Text → α}

@[simp]
theorem names_tabulate : (tabulate names entry).names = names := by
  simp [Table.names, tabulate, Function.comp_def]

theorem get?_tabulate (name : Text) :
    (tabulate names entry).get? name = if name ∈ names then some (entry name) else none := by
  induction names with
  | nil => rfl
  | cons first names ih =>
      rw [tabulate, List.map_cons, get?_cons, ← tabulate, ih]
      by_cases same : first = name
      · simp [same]
      · simp [same, Ne.symm same]

theorem tabulate_congr (same : ∀ name ∈ names, entry name = other name) :
    tabulate names entry = tabulate names other :=
  List.map_congr_left fun name member => by rw [same name member]

theorem put_tabulate_of_mem
    (distinct : names.Nodup)
    {name : Text}
    (known : name ∈ names)
    (value : α) :
    (tabulate names entry).put name value = tabulate names (Function.update entry name value) := by
  induction names with
  | nil => cases known
  | cons first names ih =>
      obtain ⟨apart, distinct⟩ := List.nodup_cons.1 distinct
      by_cases same : first = name
      · subst same
        -- The name stands here only, so the update does not show in what follows.
        have kept : tabulate names entry = tabulate names (Function.update entry first value) := by
          refine tabulate_congr fun other member => ?_
          rw [Function.update_of_ne]
          rintro rfl
          exact apart member
        simp only [tabulate, List.map_cons, put, if_pos, Function.update_self] at kept ⊢
        rw [kept]
      · have inside : name ∈ names := List.mem_of_ne_of_mem (Ne.symm same) known
        have later := ih distinct inside
        simp only [tabulate, List.map_cons, put] at later ⊢
        rw [if_neg same, later, Function.update_of_ne same]

/-- A name that is entered keeps its place, or gets the last one. -/
theorem put_tabulate
    (distinct : names.Nodup)
    (name : Text)
    (value : α) :
    (tabulate names entry).put name value =
      tabulate (if name ∈ names then names else names ++ [name])
        (Function.update entry name value) := by
  split
  · next known => exact put_tabulate_of_mem distinct known value
  · next unknown =>
      rw [put_of_not_mem (names_tabulate ▸ unknown), tabulate, tabulate, List.map_append,
        List.map_singleton, Function.update_self]
      refine congrArg (· ++ _) (tabulate_congr fun other member => ?_)
      rw [Function.update_of_ne]
      rintro rfl
      exact unknown member

end Table

end Stencil
