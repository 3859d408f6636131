import Stencil.Placeholder.Template
import Stencil.Proofs.Table

/-!
Rolls of names.  Names that are added to the end of a list, each unless the list holds it already,
stand in it once and in the order in which they first came.
-/
namespace Stencil.Placeholder

/-- The roll holds the names of a list once each, in the order in which they first stand in it. -/
structure IsRoll (roll names : List Text) : Prop where
  once : roll.Nodup
  same : ∀ name, name ∈ roll ↔ name ∈ names
  ordered : roll.Pairwise fun earlier later => names.idxOf earlier < names.idxOf later

theorem distinct_concat (names : List Text) (name : Text) :
    distinct (names ++ [name]) = addName (distinct names) name := by
  simp [distinct]

theorem distinct_eq_eraseDups (names : List Text) : distinct names = names.eraseDups := by
  induction names using List.reverseRecOn with
  | nil => rfl
  | append_singleton names name ih =>
      simp [distinct_concat, addName, ih, eraseDups_concat]

theorem mem_distinct {names : List Text} {name : Text} : name ∈ distinct names ↔ name ∈ names := by
  rw [distinct_eq_eraseDups, List.mem_eraseDups]

theorem isRoll_distinct (names : List Text) : IsRoll (distinct names) names where
  once := distinct_eq_eraseDups names ▸ nodup_eraseDups names
  same := fun _ => mem_distinct
  ordered := distinct_eq_eraseDups names ▸ pairwise_idxOf_eraseDups names

end Stencil.Placeholder
