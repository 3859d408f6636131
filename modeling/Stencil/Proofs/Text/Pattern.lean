import Mathlib.Data.List.TakeWhile
import Stencil.Text.Pattern

/-!
How patterns are matched.  A greedy repetition that gains nothing from giving characters back passes
all it can, and a reluctant one stops at the first place from which the rest matches.
-/
namespace Stencil.Text.Pattern

variable {β : Type} {inClass : Char → Bool} {goOn : Text → Option β}

/-! ## Greedy repetitions -/

theorem goOn_eq_none_of_dropWhile
    (noGain : ∀ c rest, inClass c → goOn rest = none → goOn (c :: rest) = none)
    {t : Text}
    (stuck : goOn (t.dropWhile inClass) = none) :
    goOn t = none := by
  induction t with
  | nil => exact stuck
  | cons c cs ih =>
      by_cases passed : inClass c
      · rw [List.dropWhile_cons_of_pos passed] at stuck
        exact noGain c cs passed (ih stuck)
      · rwa [List.dropWhile_cons_of_neg passed] at stuck

theorem passMost_eq
    (noGain : ∀ c rest, inClass c → goOn rest = none → goOn (c :: rest) = none)
    (t : Text) :
    passMost inClass goOn t = goOn (t.dropWhile inClass) := by
  induction t with
  | nil => rfl
  | cons c cs ih =>
      by_cases passed : inClass c
      · rw [passMost, if_pos passed, ih, List.dropWhile_cons_of_pos passed]
        cases stuck : goOn (cs.dropWhile inClass) with
        | none => exact noGain c cs passed (goOn_eq_none_of_dropWhile noGain stuck)
        | some result => rfl
      · rw [passMost, if_neg passed, List.dropWhile_cons_of_neg passed]

/-- What follows never begins with a character of the class. -/
theorem passMost_eq_of_apart
    (apart : ∀ c rest, inClass c → goOn (c :: rest) = none)
    (t : Text) :
    passMost inClass goOn t = goOn (t.dropWhile inClass) :=
  passMost_eq (fun c rest passed _ => apart c rest passed) t

/-! ## Reluctant repetitions -/

theorem isSome_passFewest
    {t : Text} :
    (passFewest inClass goOn t).isSome ↔
      ∃ a rest, t = a ++ rest ∧ (∀ c ∈ a, inClass c) ∧ (goOn rest).isSome := by
  induction t with
  | nil =>
      refine ⟨fun done => ⟨[], [], rfl, by simp, done⟩, ?_⟩
      rintro ⟨a, rest, parts, _, done⟩
      obtain ⟨rfl, rfl⟩ := List.append_eq_nil_iff.1 parts.symm
      exact done
  | cons c cs ih =>
      rw [passFewest, Option.isSome_or, Bool.or_eq_true]
      constructor
      · rintro (done | later)
        · exact ⟨[], c :: cs, rfl, by simp, done⟩
        · split at later
          · next passed =>
              obtain ⟨a, rest, rfl, all, done⟩ := ih.1 later
              exact ⟨c :: a, rest, rfl, List.forall_mem_cons.2 ⟨passed, all⟩, done⟩
          · cases later
      · rintro ⟨a, rest, parts, all, done⟩
        cases a with
        | nil =>
            obtain rfl : c :: cs = rest := parts
            exact .inl done
        | cons d a =>
            obtain ⟨rfl, rfl⟩ := List.cons.inj parts
            obtain ⟨passed, all⟩ := List.forall_mem_cons.1 all
            rw [if_pos passed]
            exact .inr (ih.2 ⟨a, rest, rfl, all, done⟩)

theorem passFewest_eq_none
    {t : Text}
    (stuck : ∀ rest, rest <:+ t → goOn rest = none) :
    passFewest inClass goOn t = none := by
  refine Option.not_isSome_iff_eq_none.1 fun reached => ?_
  obtain ⟨a, rest, parts, _, done⟩ := isSome_passFewest.1 reached
  rw [stuck rest ⟨a, parts.symm⟩] at done
  cases done

theorem passFewest_of_isSome
    {t : Text}
    (done : (goOn t).isSome) :
    passFewest inClass goOn t = goOn t := by
  obtain ⟨result, here⟩ := Option.isSome_iff_exists.1 done
  cases t with
  | nil => rfl
  | cons c cs => rw [passFewest, here, Option.some_or]

/-- The first place from which the rest matches is found when all before it is in the class. -/
theorem passFewest_append
    {a rest : Text}
    (stuck : ∀ m, m ≠ [] → m <:+ a → goOn (m ++ rest) = none)
    (done : (goOn rest).isSome) :
    passFewest inClass goOn (a ++ rest) = if a.all inClass then goOn rest else none := by
  induction a with
  | nil => exact passFewest_of_isSome done
  | cons c a ih =>
      have here := stuck (c :: a) (List.cons_ne_nil c a) List.suffix_rfl
      rw [List.cons_append] at here
      have later := ih fun m some_left inside =>
        stuck m some_left (inside.trans (List.suffix_cons c a))
      rw [List.cons_append, passFewest, here, Option.none_or, later, List.all_cons]
      cases inClass c <;> rfl

theorem map_passFewest
    {γ : Type}
    (f : β → γ)
    (t : Text) :
    (passFewest inClass goOn t).map f = passFewest inClass (fun rest => (goOn rest).map f) t := by
  induction t with
  | nil => rfl
  | cons c cs ih =>
      rw [passFewest, passFewest, Option.map_or, ← ih]
      cases inClass c <;> rfl

/-! ## Whole texts -/

/-- The whole text is matched. -/
def finish (rest : Text) (groups : Groups) : Option Groups :=
  if rest = [] then some groups else none

theorem fullMatch?_eq (p : Pattern) (t : Text) : p.fullMatch? t = p.attempt finish t [] :=
  rfl

theorem finish_cons (c : Char) (cs : Text) (groups : Groups) : finish (c :: cs) groups = none :=
  rfl

/-- A match that goes on to the end of a text is one of a whole end of it. -/
theorem isSome_matchToEnd?
    {p : Pattern}
    {t : Text} :
    (p.matchToEnd? t).isSome ↔ ∃ rest, rest <:+ t ∧ (p.fullMatch? rest).isSome := by
  induction t with
  | nil => simp only [matchToEnd?, List.suffix_nil, exists_eq_left]
  | cons c cs ih =>
      rw [matchToEnd?, Option.isSome_or, Bool.or_eq_true, ih]
      simp only [List.suffix_cons_iff, or_and_right, exists_or, exists_eq_left]

theorem passMost_to_end
    (result : β)
    (t : Text) :
    passMost inClass (fun rest => if rest = [] then some result else none) t =
      if t.all inClass then some result else none := by
  rw [passMost_eq_of_apart (fun c rest _ => if_neg (List.cons_ne_nil c rest))]
  simp only [List.dropWhile_eq_nil_iff, List.all_eq_true]

/-- The text of a group is what has been passed. -/
theorem take_passed
    {a t : Text}
    (starts : a <+: t) :
    t.take (t.length - (t.drop a.length).length) = a := by
  have shorter := starts.length_le
  rw [List.length_drop, Nat.sub_sub_self shorter, ← List.prefix_iff_eq_take.1 starts]

/-! ## Matches one after the other -/

theorem take_matched (a rest : Text) : (a ++ rest).take ((a ++ rest).length - rest.length) = a := by
  rw [List.length_append, Nat.add_sub_cancel, List.take_left]

theorem findAll_append
    {rest? : Text → Option Text}
    {a rest : Text}
    (found : rest? (a ++ rest) = some rest)
    (some_taken : a ≠ []) :
    findAll rest? (a ++ rest) = a :: findAll rest? rest := by
  have matched := take_matched a rest
  obtain ⟨c, cs, parts⟩ := List.exists_cons_of_ne_nil some_taken
  subst parts
  have shorter : rest.length ≤ (cs ++ rest).length := by
    rw [List.length_append]
    exact Nat.le_add_left _ _
  rw [List.cons_append] at found matched ⊢
  rw [findAll, found]
  simp only [if_pos shorter, matched]

/-! ## What always matches -/

/-- There is a result from every place on. -/
def Total (goOn : Text → Groups → Option β) : Prop :=
  ∀ rest groups, (goOn rest groups).isSome

theorem passMost_of_total
    {goOn : Text → Option β}
    (total : ∀ rest, (goOn rest).isSome)
    (t : Text) :
    passMost inClass goOn t = goOn (t.dropWhile inClass) := by
  refine passMost_eq (fun c rest _ stuck => ?_) t
  have reached := total rest
  rw [stuck] at reached
  cases reached

theorem total_maybe
    {goOn : Text → Groups → Option β}
    (total : Total goOn)
    {p : Pattern} :
    Total ((maybe p).attempt goOn) := by
  intro rest groups
  rw [attempt, Option.isSome_or, total rest groups, Bool.or_true]

end Stencil.Text.Pattern
