import Stencil.Files.Tree

/-!
Writing to a file tree.  A write changes one location and none of the ways through the tree, so the
path that was written to leads to what was written.
-/
namespace Stencil.FileTree

variable {t written : FileTree} {folder l other : Location} {entry : Entry} {p : Path}
  {content : List UInt8}

/-! ## One entry -/

/-- An entry of a list keeps its location when the one at a location is replaced. -/
theorem find?_map_entry (entries : List (Location × Entry)) :
    (entries.map fun e => if e.1 == l then (l, entry) else e).find? (fun e => e.1 == other) =
      (entries.find? fun e => e.1 == other).map fun e => if e.1 == l then (l, entry) else e := by
  have kept : ((fun e : Location × Entry => e.1 == other) ∘
      fun e => if e.1 == l then (l, entry) else e) = fun e => e.1 == other := by
    funext e
    by_cases same : e.1 = l <;> simp [same]
  rw [List.find?_map, kept]

theorem get?_put_self
    (plain : t.get? l ≠ some .folder)
    (entry : Entry) :
    (t.put l entry).get? l = some entry := by
  have inside : l ≠ [] := by
    rintro rfl
    exact plain (if_pos rfl)
  rw [get?, if_neg inside, put]
  simp only
  split
  · next known =>
      obtain ⟨e, member, same⟩ := List.any_eq_true.1 known
      rw [find?_map_entry]
      cases found : t.entries.find? fun e => e.1 == l with
      | none => exact absurd same (List.find?_eq_none.1 found e member)
      | some first =>
          have here : (first.1 == l) = true :=
            List.find?_some (p := fun e : Location × Entry => e.1 == l) found
          rw [Option.map_some, if_pos here]
          rfl
  · next unknown =>
      have absent : (t.entries.find? fun e => e.1 == l) = none :=
        List.find?_eq_none.2 fun e member same => unknown (List.any_eq_true.2 ⟨e, member, same⟩)
      simp [List.find?_append, absent]

theorem get?_put_of_ne (apart : other ≠ l) (entry : Entry) :
    (t.put l entry).get? other = t.get? other := by
  rw [get?, get?, put]
  by_cases root : other = []
  · rw [if_pos root, if_pos root]
  · rw [if_neg root, if_neg root]
    simp only
    split
    · rw [find?_map_entry]
      cases found : t.entries.find? fun e => e.1 == other with
      | none => rfl
      | some e =>
          have here : e.1 = other :=
            eq_of_beq (List.find?_some (p := fun e : Location × Entry => e.1 == other) found)
          simp [here, apart]
    · simp [List.find?_append, Ne.symm apart]

/-! ## Ways -/

/-- A way through a tree leads through folders only, so what is put in another place is not met. -/
theorem walk_put
    (plain : t.get? l ≠ some .folder)
    {here : Location}
    {parts : List Text}
    (reached : t.walk here parts = .ok other) :
    (t.put l entry).walk here parts = .ok other := by
  induction parts generalizing here with
  | nil => exact reached
  | cons part parts ih =>
      rw [walk] at reached ⊢
      cases met : t.get? here with
      | none =>
          rw [met] at reached
          cases reached
      | some e =>
          cases e with
          | file content =>
              rw [met] at reached
              cases reached
          | folder =>
              have apart : here ≠ l := fun same => plain (same ▸ met)
              rw [get?_put_of_ne apart, met]
              rw [met] at reached
              simp only at reached ⊢
              split at reached
              · cases reached
              · next searched =>
                  split at reached
                  · cases reached
                  · next short =>
                      have open_way : ¬ (t.put l entry).bars here .search = true := searched
                      rw [if_neg open_way, if_neg short, ih reached]

theorem locate_put
    (plain : t.get? l ≠ some .folder)
    (located : t.locate folder p = .ok other) :
    (t.put l entry).locate folder p = .ok other := by
  rw [locate] at located ⊢
  split at located
  · cases located
  · next named =>
      split at located
      · cases located
      · next short => rw [if_neg named, if_neg short, walk_put plain located]

/-! ## Writing -/

theorem place_eq_ok_iff :
    t.place folder p = .ok l ↔
      t.locate folder p = .ok l ∧ t.get? l ≠ some .folder ∧ t.bars (t.gate l) .write = false := by
  rw [place]
  cases t.locate folder p with
  | error o => exact iff_of_false nofun fun ⟨located, _⟩ => nomatch located
  | ok place =>
      simp only [Except.ok.injEq]
      split
      · next blocked =>
          refine iff_of_false nofun ?_
          rintro ⟨rfl, plain, _⟩
          exact plain blocked
      · next plain =>
          split
          · next barred =>
              refine iff_of_false nofun ?_
              rintro ⟨rfl, _, free⟩
              rw [barred] at free
              cases free
          · next free =>
              rw [Except.ok.injEq]
              constructor
              · rintro rfl
                exact ⟨rfl, plain, Bool.eq_false_iff.2 free⟩
              · exact And.left

theorem isWritable_iff : t.IsWritable folder p ↔ ∃ l, t.place folder p = .ok l :=
  exists_congr fun _ => place_eq_ok_iff.symm

theorem write_ok
    (stored : t.write folder p content = .ok written) :
    ∃ l, t.locate folder p = .ok l ∧ t.get? l ≠ some .folder ∧
      t.bars (t.gate l) .write = false ∧ written = t.put l (.file content) := by
  rw [write] at stored
  cases placed : t.place folder p with
  | error o =>
      rw [placed] at stored
      cases stored
  | ok l =>
      rw [placed] at stored
      obtain ⟨located, plain, free⟩ := place_eq_ok_iff.1 placed
      exact ⟨l, located, plain, free, (Except.ok.inj stored).symm⟩

theorem exists_write_eq_error_iff :
    (∃ o, t.write folder p content = .error o) ↔ ¬ t.IsWritable folder p := by
  rw [write, isWritable_iff]
  cases t.place folder p with
  | error o => exact iff_of_true ⟨o, rfl⟩ fun ⟨_, placed⟩ => nomatch placed
  | ok l => exact iff_of_false (fun ⟨_, failed⟩ => nomatch failed) fun blocked => blocked ⟨l, rfl⟩

/-- What was written is at the path, whether it may be read there or not. -/
theorem at?_write
    (stored : t.write folder p content = .ok written) :
    written.at? folder p = some (.file content) := by
  obtain ⟨l, located, plain, _, rfl⟩ := write_ok stored
  rw [at?, locate_put plain located]
  exact get?_put_self plain _

end Stencil.FileTree
