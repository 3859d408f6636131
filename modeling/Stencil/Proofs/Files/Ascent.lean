import Mathlib.Data.List.Basic
import Stencil.Files.Ascent

/-!
Searching upwards.  The locations of an ascent are the prefixes of its start, the longest first, so
what a search finds is the nearest location that passes its test.
-/
namespace Stencil.Location

variable {count : Nat} {start l : Location} {test : Location → Bool}

theorem ascending_concat (count : Nat) (above : Location) (name : Text) :
    ascending (count + 1) (above ++ [name]) = (above ++ [name]) :: ascending count above := by
  simp [ascending]

theorem mem_ascending_iff :
    l ∈ ascending count start ↔ l <+: start ∧ start.length < l.length + count := by
  induction count generalizing start with
  | zero =>
      refine iff_of_false List.not_mem_nil fun ⟨above, within⟩ => ?_
      exact absurd above.length_le (Nat.not_le.2 within)
  | succ count ih =>
      rcases List.eq_nil_or_concat' start with rfl | ⟨above, name, rfl⟩
      · simp only [ascending, List.isEmpty_nil, if_true, List.mem_singleton, List.prefix_nil,
          List.length_nil]
        exact ⟨fun here => ⟨here, by omega⟩, And.left⟩
      · rw [ascending_concat, List.mem_cons, ih, List.prefix_concat_iff, List.length_append,
          List.length_singleton]
        constructor
        · rintro (rfl | ⟨inside, within⟩)
          · exact ⟨.inl rfl, by simp⟩
          · exact ⟨.inr inside, by omega⟩
        · rintro ⟨rfl | inside, within⟩
          · exact .inl rfl
          · exact .inr ⟨inside, by omega⟩

theorem nearest_start_iff
    (passes : test start) :
    Nearest (count + 1) start test l ↔ start = l := by
  constructor
  · intro nearest
    by_contra other
    have longer : l.length < start.length :=
      Nat.lt_of_le_of_ne nearest.above.length_le
        fun same => other (nearest.above.eq_of_length same).symm
    rw [nearest.first start List.prefix_rfl longer] at passes
    cases passes
  · rintro rfl
    refine ⟨List.prefix_rfl, by omega, passes, fun nearer inside longer => ?_⟩
    exact absurd inside.length_le (Nat.not_le.2 longer)

theorem nearest_concat_iff
    {above : Location}
    {name : Text}
    (fails : test (above ++ [name]) = false) :
    Nearest (count + 1) (above ++ [name]) test l ↔ Nearest count above test l := by
  constructor
  · rintro ⟨inside, within, passes, first⟩
    rcases List.prefix_concat_iff.1 inside with rfl | inside
    · rw [fails] at passes
      cases passes
    · rw [List.length_append, List.length_singleton] at within
      refine ⟨inside, by omega, passes, fun nearer below longer => ?_⟩
      exact first nearer (below.trans (List.prefix_append above [name])) longer
  · rintro ⟨inside, within, passes, first⟩
    refine ⟨inside.trans (List.prefix_append above [name]), ?_, passes, ?_⟩
    · rw [List.length_append, List.length_singleton]
      omega
    · intro nearer below longer
      rcases List.prefix_concat_iff.1 below with rfl | below
      · exact fails
      · exact first nearer below longer

/-- What an ascent finds first is the nearest location. -/
theorem find?_ascending_eq_some_iff :
    (ascending count start).find? test = some l ↔ Nearest count start test l := by
  induction count generalizing start with
  | zero =>
      refine iff_of_false (by simp [ascending]) fun nearest => ?_
      exact absurd nearest.above.length_le (Nat.not_le.2 nearest.within)
  | succ count ih =>
      by_cases passes : test start
      · rw [nearest_start_iff passes, ascending, List.find?_cons_of_pos passes,
          Option.some.injEq]
      · rw [Bool.not_eq_true] at passes
        rcases List.eq_nil_or_concat' start with rfl | ⟨above, name, rfl⟩
        · refine iff_of_false (by simp [ascending, passes]) fun nearest => ?_
          obtain rfl := List.prefix_nil.1 nearest.above
          rw [nearest.passes] at passes
          cases passes
        · rw [nearest_concat_iff passes, ascending_concat, List.find?_cons_of_neg, ih]
          rw [passes]
          exact Bool.false_ne_true

theorem search_eq_some_iff :
    start.search test = some l ↔ Nearest ascentLimit start test l :=
  find?_ascending_eq_some_iff

theorem search_eq_none_iff :
    start.search test = none ↔
      ∀ l, l <+: start → start.length < l.length + ascentLimit → test l = false := by
  rw [search, List.find?_eq_none]
  simp only [mem_ascending_iff, and_imp, Bool.not_eq_true]

end Stencil.Location
