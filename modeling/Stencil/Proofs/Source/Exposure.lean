import Stencil.Proofs.Table
import Stencil.Proofs.Text.Case
import Stencil.Source.Record

/-!
What an object may be asked for.  An answer is the data of a public member that the name stands for.
Case decides which member this is only when no member has just this name.
-/
namespace Stencil

open Text

/-- What is answered with a value of an object: nothing when there is none, or when it is to be
called. -/
def Value.data? : Value → Option Text
  | null | function => none
  | v => some v.toText

theorem Value.data?_eq_some
    {v : Value}
    {answer : Text}
    (answered : v.data? = some answer) :
    v ≠ .null ∧ v ≠ .function ∧ answer = v.toText := by
  cases v with
  | null => cases answered
  | function => cases answered
  | _ => exact ⟨nofun, nofun, (Option.some.inj answered).symm⟩

namespace Record

variable {r : Record} {reserved : List Text} {m name : Text} {v : Value} {ignoreCase : Bool}

/-! ## Members -/

/-- A name of an attribute of the object itself or of a property. -/
def Has (r : Record) (m : Text) : Prop :=
  m ∈ r.attributes.names ∨ m ∈ r.properties.names ∨ m ∈ r.inherited.names

theorem mem_members : m ∈ r.members reserved ↔ r.Has m ∧ m.head? ≠ some '_' ∧ m ∉ reserved := by
  have isPublic_iff : isPublic reserved m = true ↔ m.head? ≠ some '_' ∧ m ∉ reserved := by
    simp [isPublic]
  rw [members, List.mem_filter, isPublic_iff, List.map_append, List.map_append, List.mem_append,
    List.mem_append, or_assoc]
  rfl

/-- What an object has under the name of a member. -/
inductive Shows (r : Record) (m : Text) : Value → Prop
  | property {v : Value} : r.properties.get? m = some v → Shows r m v
  | inherited {v : Value} :
      m ∉ r.properties.names → m ∉ r.classAttributes.names → r.inherited.get? m = some v →
      Shows r m v
  /-- An attribute of the object itself, if no property takes its place. -/
  | field {v : Value} :
      m ∉ r.properties.names → (m ∈ r.inherited.names → m ∈ r.classAttributes.names) →
      r.attributes.get? m = some v → Shows r m v
  /-- A plain attribute of the class, in the place of the inherited property that it hides. -/
  | standIn {v : Value} :
      m ∉ r.properties.names → m ∉ r.attributes.names → m ∈ r.inherited.names →
      r.classAttributes.get? m = some v → Shows r m v

theorem shows_of_value?
    (member : r.Has m)
    (found : r.value? m = some v) :
    r.Shows m v := by
  rw [value?] at found
  cases own : r.properties.get? m with
  | some w =>
      rw [own] at found
      exact .property (own.trans found)
  | none =>
      have noOwn := Table.get?_eq_none.1 own
      cases plain : r.classAttributes.get? m with
      | none =>
          have noPlain := Table.get?_eq_none.1 plain
          cases above : r.inherited.get? m with
          | some w =>
              simp only [own, plain, above] at found
              exact .inherited noOwn noPlain (above.trans found)
          | none =>
              simp only [own, plain, above, Option.or_none] at found
              exact .field noOwn (fun up => absurd up (Table.get?_eq_none.1 above)) found
      | some w =>
          simp only [own, plain] at found
          cases here : r.attributes.get? m with
          | some u =>
              rw [here] at found
              exact .field noOwn (fun _ => Table.isSome_get?.1 (by rw [plain]; rfl))
                (here.trans found)
          | none =>
              rw [here, Option.none_or] at found
              have noField := Table.get?_eq_none.1 here
              exact .standIn noOwn noField ((member.resolve_left noField).resolve_left noOwn)
                (plain.trans found)

theorem value?_of_shows (shown : r.Shows m v) : r.value? m = some v := by
  rw [value?]
  cases shown with
  | property own => rw [own]
  | inherited noOwn noPlain above =>
      rw [Table.get?_eq_none.2 noOwn, Table.get?_eq_none.2 noPlain, above]
  | field noOwn covered here =>
      rw [Table.get?_eq_none.2 noOwn, here]
      cases plain : r.classAttributes.get? m with
      | some w => rfl
      | none =>
          have up := mt covered (Table.get?_eq_none.1 plain)
          rw [Table.get?_eq_none.2 up]
          rfl
  | standIn noOwn noField _ plain =>
      rw [Table.get?_eq_none.2 noOwn, plain, Table.get?_eq_none.2 noField]
      rfl

/-! ## The member of a name -/

theorem member?_of_mem
    (known : name ∈ r.members reserved)
    (named : name ≠ []) :
    r.member? reserved ignoreCase name = some name := by
  have open_name := (mem_members.1 known).2.1
  simp [member?, known, named, open_name]

/-- A name that no member has stands for the first member with the same small letters, if for
any. -/
theorem member?_of_not_mem (unknown : name ∉ r.members reserved) :
    r.member? reserved ignoreCase name =
      if ignoreCase then (r.members reserved).find? (fun m => lower m == lower name) else none := by
  rw [member?]
  split
  · next hidden =>
      have none : (r.members reserved).find? (fun m => lower m == lower name) = none := by
        refine List.find?_eq_none.2 fun m member same => ?_
        have same : lower m = lower name := eq_of_beq same
        have isPublic := (mem_members.1 member).2.1
        rcases name with _ | ⟨c, cs⟩
        · exact unknown (lower_eq_nil_iff.1 same ▸ member)
        · obtain rfl : c = '_' := by simpa using hidden
          refine isPublic (head?_lower_underscore_iff.1 ?_)
          rw [same]
          exact head?_lower_underscore_iff.2 rfl
      simp [none]
  · simp [unknown]

theorem resolver_fst
    {σ : Type}
    (r : Record)
    (reserved : List Text)
    (ignoreCase : Bool)
    (name : Text)
    (state : σ) :
    (r.resolver reserved ignoreCase name state).1 =
      ((r.member? reserved ignoreCase name).bind r.value?).bind Value.data? := by
  rw [resolver, Resolver.pure, find?]
  cases (r.member? reserved ignoreCase name).bind r.value? with
  | none => rfl
  | some v => cases v <;> rfl

theorem resolver_of_shows
    {σ : Type}
    (known : name ∈ r.members reserved)
    (named : name ≠ [])
    (shown : r.Shows name v)
    (ignoreCase : Bool)
    (state : σ) :
    (r.resolver reserved ignoreCase name state).1 = v.data? := by
  rw [resolver_fst, member?_of_mem known named, Option.bind_some, value?_of_shows shown,
    Option.bind_some]

theorem member?_exposed
    (found : r.member? reserved ignoreCase name = some m) :
    m ∈ r.members reserved ∧ (m = name ∨ ignoreCase = true ∧ lower m = lower name) := by
  by_cases known : name ∈ r.members reserved
  · by_cases named : name = []
    · rw [named] at found
      cases found
    · rw [member?_of_mem known named] at found
      cases found
      exact ⟨known, .inl rfl⟩
  · rw [member?_of_not_mem known] at found
    cases ignoreCase with
    | false => cases found
    | true =>
        rw [if_pos rfl] at found
        have same := List.find?_some found
        rw [beq_iff_eq] at same
        exact ⟨List.mem_of_find?_eq_some found, .inr ⟨rfl, same⟩⟩

theorem member?_of_first
    {before after : List Text}
    (unknown : name ∉ r.members reserved)
    (parts : r.members reserved = before ++ m :: after)
    (apart : ∀ other ∈ before, lower other ≠ lower name)
    (same : lower m = lower name) :
    r.member? reserved true name = some m := by
  rw [member?_of_not_mem unknown, parts, if_pos rfl, List.find?_append,
    List.find?_eq_none.2 fun other member => by simpa using apart other member, Option.none_or]
  exact List.find?_cons_of_pos (beq_iff_eq.2 same)

/-- Whatever names are reserved, the answers of an object are the data of its public members: of the
member with just this name if there is one, else, when case is ignored, of the first one with the
same small letters.  What a member shows is its property or field, and a plain attribute of the class
only where it hides an inherited property. -/
theorem public_data_answers
    {σ : Type}
    (r : Record)
    (reserved : List Text)
    (name : Text)
    (state : σ) :
    (∀ ignoreCase, (r.resolver reserved ignoreCase name state).2 = state) ∧
    (∀ ignoreCase answer, (r.resolver reserved ignoreCase name state).1 = some answer →
      ∃ m v, r.Has m ∧ m.head? ≠ some '_' ∧ m ∉ reserved ∧
        (m = name ∨ ignoreCase = true ∧ lower m = lower name) ∧
        r.Shows m v ∧ v ≠ .null ∧ v ≠ .function ∧ answer = v.toText) ∧
    (name ∈ r.members reserved →
      (r.resolver reserved true name state).1 = (r.resolver reserved false name state).1 ∧
      ∀ v, name ≠ [] → r.Shows name v → (r.resolver reserved false name state).1 = v.data?) ∧
    (name ∉ r.members reserved →
      (r.resolver reserved false name state).1 = none ∧
      ((∀ m ∈ r.members reserved, lower m ≠ lower name) →
        (r.resolver reserved true name state).1 = none) ∧
      ∀ before m after, r.members reserved = before ++ m :: after →
        (∀ other ∈ before, lower other ≠ lower name) → lower m = lower name →
        (r.resolver reserved true name state).1 = (r.resolver reserved false m state).1) := by
  refine ⟨fun _ => rfl, fun ignoreCase answer answered => ?_, fun known => ⟨?_, ?_⟩,
    fun unknown => ⟨?_, fun apart => ?_, ?_⟩⟩
  · rw [resolver_fst] at answered
    obtain ⟨v, found, data⟩ := Option.bind_eq_some_iff.1 answered
    obtain ⟨m, stands, held⟩ := Option.bind_eq_some_iff.1 found
    obtain ⟨member, sameName⟩ := member?_exposed stands
    obtain ⟨has, open_name, free⟩ := mem_members.1 member
    obtain ⟨some_value, noFunction, text⟩ := Value.data?_eq_some data
    exact ⟨m, v, has, open_name, free, sameName, shows_of_value? has held, some_value, noFunction,
      text⟩
  · by_cases named : name = []
    · rw [named]
      rfl
    · rw [resolver_fst, resolver_fst, member?_of_mem known named, member?_of_mem known named]
  · exact fun v named shown => resolver_of_shows known named shown false state
  · rw [resolver_fst, member?_of_not_mem unknown]
    rfl
  · have none : (r.members reserved).find? (fun m => lower m == lower name) = none :=
      List.find?_eq_none.2 fun m member => by simpa using apart m member
    rw [resolver_fst, member?_of_not_mem unknown, if_pos rfl, none]
    rfl
  · intro before m after parts apart same
    have member : m ∈ r.members reserved := by rw [parts]; simp
    have named : m ≠ [] := by
      rintro rfl
      exact unknown (lower_eq_nil_iff.1 same.symm ▸ member)
    rw [resolver_fst, resolver_fst, member?_of_first unknown parts apart same,
      member?_of_mem member named]

/-- An object with two members that only case tells apart, and an attribute of a reserved name. -/
def toolbox : Record where
  attributes := [("copy".toList, .integer 0), ("tool".toList, .integer 1), ("TOOL".toList, .null)]
  properties := []
  inherited := []
  classAttributes := []

theorem public_data_answers_caseless :
    (toolbox.resolver ["copy".toList] true "Tool".toList ()).1 = some "1".toList := by
  have members : toolbox.members ["copy".toList] = ["tool".toList, "TOOL".toList] := by
    decide +kernel
  obtain ⟨_, _, _, others⟩ := public_data_answers toolbox ["copy".toList] "Tool".toList ()
  rw [members] at others
  obtain ⟨_, _, first⟩ := others (by decide)
  rw [first [] "tool".toList ["TOOL".toList] rfl (List.forall_mem_nil _) (by decide)]
  decide +kernel

/-- An object of a class whose plain attribute hides a property of the class above. -/
def hidingProperty : Record where
  attributes := []
  properties := []
  inherited := [("kind".toList, .text "inherited".toList)]
  classAttributes := [("kind".toList, .text "class-level".toList)]

/-- The plain attribute answers, though it is no field and no property. -/
theorem hidingProperty_answers :
    (hidingProperty.resolver ["copy".toList] false "kind".toList ()).1 = some "class-level".toList ∧
      ∀ m v, hidingProperty.attributes.get? m = some v ∨ hidingProperty.properties.get? m = some v ∨
        hidingProperty.inherited.get? m = some v → v.toText ≠ "class-level".toList := by
  refine ⟨by decide +kernel, ?_⟩
  rintro m v (field | own | above)
  · cases field
  · cases own
  · rw [hidingProperty, Table.get?_cons] at above
    split at above
    · cases above
      decide
    · cases above

end Record

end Stencil
