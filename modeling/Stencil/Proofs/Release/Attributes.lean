import Stencil.Proofs.Text.Case
import Stencil.Release.Notes

/-!
Release notes as a source: what they answer a name with is the attribute of this name.
-/
namespace Stencil.Release.Notes

open Text

variable {notes : Notes} {name : Text} {ignoreCase : Bool}

theorem members_toRecord (notes : Notes) (reserved : Reserved) :
    notes.toRecord.members reserved.names = attributeNames := by
  have plain : ∀ name ∈ attributeNames, name.head? ≠ some '_' := by decide
  have allPublic : attributeNames.filter (Record.isPublic reserved.names) = attributeNames := by
    apply List.filter_eq_self.2
    intro name member
    simp [Record.isPublic, plain name member, reserved.free name member]
  exact allPublic

theorem lower_eq_of_sameName (same : sameName ignoreCase name asked) :
    lower name = lower asked := by
  cases ignoreCase with
  | false => exact congrArg lower (eq_of_beq same)
  | true => exact eq_of_beq same

/-- No attribute is asked for by a name that data cannot have. -/
theorem find?_private
    (hidden : (name.isEmpty || name.head? == some '_') = true) :
    attributeNames.find? (sameName ignoreCase · name) = none := by
  have outside : ∀ known ∈ attributeNames,
      lower known ≠ [] ∧ (lower known).head? ≠ some '_' := by decide +kernel
  rw [List.find?_eq_none]
  intro known member same
  obtain ⟨nonempty, plain⟩ := outside known member
  rw [lower_eq_of_sameName same] at nonempty plain
  cases name with
  | nil => exact nonempty rfl
  | cons c cs =>
      obtain rfl : c = '_' := by simpa using hidden
      exact plain (head?_lower_underscore_iff.2 rfl)

theorem find?_known
    (known : name ∈ attributeNames) :
    attributeNames.find? (sameName ignoreCase · name) = some name := by
  have itself : ∀ ignoreCase, ∀ name ∈ attributeNames,
      attributeNames.find? (sameName ignoreCase · name) = some name := by decide +kernel
  exact itself ignoreCase name known

theorem member?_toRecord
    (notes : Notes)
    (reserved : Reserved)
    (ignoreCase : Bool)
    (name : Text) :
    notes.toRecord.member? reserved.names ignoreCase name =
      attributeNames.find? (sameName ignoreCase · name) := by
  rw [Record.member?, members_toRecord]
  by_cases hidden : (name.isEmpty || name.head? == some '_') = true
  · rw [if_pos hidden, find?_private hidden]
  · rw [if_neg hidden]
    by_cases known : name ∈ attributeNames
    · rw [if_pos (List.contains_iff_mem.2 known), find?_known known]
    · rw [if_neg (mt List.contains_iff_mem.1 known)]
      cases ignoreCase with
      | true => rfl
      | false =>
          refine (List.find?_eq_none.2 fun other member same => ?_).symm
          exact known (eq_of_beq same ▸ member)

/-- An attribute answers with what the record has under its name. -/
theorem answer_of_mem
    {e : Text × Option Text}
    (member : e ∈ notes.attributes) :
    ∃ value, notes.toRecord.value? e.1 = some value ∧ value.answer? = e.2 ∧
      value ≠ .function := by
  simp only [attributes, List.mem_cons, List.not_mem_nil, or_false] at member
  rcases member with rfl | rfl | rfl | rfl
  · exact ⟨_, rfl, rfl, nofun⟩
  · obtain ⟨_, tag, _⟩ := notes
    cases tag with
    | none => exact ⟨_, rfl, rfl, nofun⟩
    | some _ => exact ⟨_, rfl, rfl, nofun⟩
  · exact ⟨_, rfl, rfl, nofun⟩
  · exact ⟨_, rfl, rfl, nofun⟩

theorem find?_toRecord
    (notes : Notes)
    (reserved : Reserved)
    (ignoreCase : Bool)
    (name : Text) :
    (notes.toRecord.find? reserved.names ignoreCase name).bind Value.answer? =
      notes.attribute? ignoreCase name := by
  have searched : attributeNames.find? (sameName ignoreCase · name) =
      (notes.attributes.find? fun e => sameName ignoreCase e.1 name).map Prod.fst :=
    List.find?_map (f := Prod.fst) (l := notes.attributes)
  rw [Record.find?, member?_toRecord, searched, attribute?]
  cases found : notes.attributes.find? fun e => sameName ignoreCase e.1 name with
  | none => rfl
  | some e =>
      obtain ⟨value, held, answers, data⟩ := answer_of_mem (List.mem_of_find?_eq_some found)
      simp only [Option.map_some, Option.bind_some, held, ← answers]
      cases value <;> first | rfl | exact absurd rfl data

theorem resolver_toRecord
    {σ : Type}
    (notes : Notes)
    (reserved : Reserved)
    (ignoreCase : Bool) :
    (notes.toRecord.resolver reserved.names ignoreCase : Resolver σ) =
      .pure (notes.attribute? ignoreCase) :=
  congrArg Resolver.pure (funext fun name => find?_toRecord notes reserved ignoreCase name)

end Stencil.Release.Notes
