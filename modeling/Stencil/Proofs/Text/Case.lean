import Stencil.Text.Case

/-!
Small forms.  No text becomes empty, and nothing but an underscore becomes one, so a text begins
with an underscore exactly when its small form does.
-/
namespace Stencil.Text

theorem ofNat_ne_underscore
    {n : Nat}
    (beyond : 95 < n) :
    Char.ofNat n ≠ '_' := by
  intro same
  by_cases valid : n.isValidChar
  · have whole : Char.ofNat n = Char.ofNatAux n valid := dif_pos valid
    have number : n = 95 := congrArg Char.toNat (whole.symm.trans same)
    omega
  · have none : Char.ofNat n = Char.ofNat 0 := dif_neg valid
    exact absurd (same.symm.trans none) (by decide)

theorem mapSpans_ne_underscore
    {spans : List CaseSpan}
    {c : Char}
    (beyond : ∀ s ∈ spans, 95 < s.image)
    (other : c ≠ '_') :
    mapSpans spans c ≠ '_' := by
  rw [mapSpans]
  cases found : spans.findSome? fun s => s.apply? c.toNat with
  | none => exact other
  | some n =>
      obtain ⟨s, member, applied⟩ := List.exists_of_findSome?_eq_some found
      unfold CaseSpan.apply? at applied
      split at applied
      · have image := beyond s member
        cases applied
        exact ofNat_ne_underscore (by omega)
      · cases applied

theorem lowerSpans_beyond : ∀ s ∈ lowerSpans, 95 < s.image := by
  decide +kernel

theorem toLower_ne_underscore
    {c : Char}
    (ascii : c.toNat < 128)
    (other : c ≠ '_') :
    c.toLower ≠ '_' := by
  have checked : ∀ n < 128, (Char.ofNat n).toLower = '_' → Char.ofNat n = '_' := by decide +kernel
  have here := checked c.toNat ascii
  rw [Char.ofNat_toNat] at here
  exact mt here other

/-- Every character has a small form, and it begins with an underscore for the underscore only. -/
theorem exists_lowerChar (c : Char) :
    ∃ first others, lowerChar c = first :: others ∧ (first = '_' ↔ c = '_') := by
  by_cases same : c = '_'
  · subst same
    exact ⟨'_', [], by decide, by decide⟩
  rw [lowerChar]
  split
  · next ascii => exact ⟨_, _, rfl, iff_of_false (toLower_ne_underscore ascii same) same⟩
  · split
    · exact ⟨_, _, rfl, iff_of_false (by decide) same⟩
    · exact ⟨_, _, rfl, iff_of_false (mapSpans_ne_underscore lowerSpans_beyond same) same⟩

theorem exists_lower_cons (c : Char) (cs : Text) :
    ∃ first others, lower (c :: cs) = first :: others ∧ (first = '_' ↔ c = '_') := by
  obtain ⟨first, others, small, underscore⟩ := exists_lowerChar c
  rw [lower, lowerAfter]
  by_cases sigma : c = 'Σ'
  · subst sigma
    refine ⟨'σ', _, rfl, by decide⟩
  · simp only [beq_iff_eq, sigma, if_false, small, List.cons_append]
    exact ⟨first, _, rfl, underscore⟩

theorem lower_eq_nil_iff {t : Text} : lower t = [] ↔ t = [] := by
  cases t with
  | nil => exact iff_of_true rfl rfl
  | cons c cs =>
      obtain ⟨first, others, small, _⟩ := exists_lower_cons c cs
      simp [small]

theorem head?_lower_underscore_iff {t : Text} :
    (lower t).head? = some '_' ↔ t.head? = some '_' := by
  cases t with
  | nil => rfl
  | cons c cs =>
      obtain ⟨first, others, small, underscore⟩ := exists_lower_cons c cs
      simp [small, underscore]

end Stencil.Text
