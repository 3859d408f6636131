import Stencil.Proofs.Table
import Stencil.Settings.History

/-!
Files and their histories.  What is done to the file of a history gives the file of a longer
history, so every file that was read or changed is the file of what happened to it.
-/
namespace Stencil.Settings

namespace History

variable {h : History} {name key : Text} {value : Option Text}

/-! ## Longer histories -/

theorem names_concat (h : History) (e : Event) :
    names (h ++ [e]) = if e.place ∈ names h then names h else names h ++ [e.place] := by
  rw [names, List.map_append, List.map_singleton, eraseDups_concat, names]
  simp only [List.mem_eraseDups]

theorem nodup_names (h : History) : (names h).Nodup :=
  nodup_eraseDups _

theorem nodup_keys (h : History) (name : Text) : (keys h name).Nodup :=
  nodup_eraseDups _

theorem mem_keys : key ∈ keys h name ↔ ∃ value, Event.assigned name key value ∈ h := by
  rw [keys, List.mem_eraseDups, List.mem_filterMap]
  constructor
  · rintro ⟨_ | ⟨other, otherKey, value⟩, member, found⟩
    · cases found
    · rw [Event.keyIn?] at found
      split at found
      · next same =>
          cases found
          exact ⟨value, same ▸ member⟩
      · cases found
  · rintro ⟨value, member⟩
    exact ⟨_, member, if_pos rfl⟩

theorem keys_ne_nil : keys h name ≠ [] ↔ ∃ key value, Event.assigned name key value ∈ h := by
  constructor
  · intro inhabited
    obtain ⟨key, member⟩ := List.exists_mem_of_ne_nil _ inhabited
    exact ⟨key, mem_keys.1 member⟩
  · rintro ⟨key, assigned⟩
    exact List.ne_nil_of_mem (mem_keys.2 assigned)

theorem keys_eq_nil_of_not_mem (unknown : name ∉ names h) : keys h name = [] := by
  by_contra some_key
  obtain ⟨key, value, member⟩ := keys_ne_nil.1 some_key
  exact unknown (List.mem_eraseDups.2 (List.mem_map_of_mem member))

theorem sectionOf_of_not_mem (unknown : name ∉ names h) : sectionOf h name = ⟨name, []⟩ := by
  rw [sectionOf, keys_eq_nil_of_not_mem unknown]
  rfl

theorem keys_assigned :
    keys (h ++ [.assigned name key value]) name =
      if key ∈ keys h name then keys h name else keys h name ++ [key] := by
  have last : Event.keyIn? name (.assigned name key value) = some key := if_pos rfl
  rw [keys, List.filterMap_append, List.filterMap_cons_some last, List.filterMap_nil,
    eraseDups_concat, keys]
  simp only [List.mem_eraseDups]

theorem lastValue_assigned :
    lastValue (h ++ [.assigned name key value]) name =
      Function.update (lastValue h name) key value := by
  funext other
  rw [lastValue, List.filterMap_append]
  by_cases same : key = other
  · subst same
    have last : Event.valueOf? name key (.assigned name key value) = some value :=
      if_pos ⟨rfl, rfl⟩
    rw [List.filterMap_cons_some last, List.filterMap_nil, List.getLast?_concat,
      Function.update_self]
    rfl
  · have none : Event.valueOf? name other (.assigned name key value) = none :=
      if_neg fun both => same both.2
    rw [List.filterMap_cons_none none, List.filterMap_nil, List.append_nil,
      Function.update_of_ne (Ne.symm same), lastValue]

theorem sectionOf_assigned :
    sectionOf (h ++ [.assigned name key value]) name = (sectionOf h name).set key value := by
  rw [sectionOf, sectionOf, keys_assigned, lastValue_assigned, Section.set,
    Table.put_tabulate (nodup_keys h name)]

theorem sectionOf_concat
    {e : Event}
    (noKey : e.keyIn? name = none)
    (noValue : ∀ key, e.valueOf? name key = none) :
    sectionOf (h ++ [e]) name = sectionOf h name := by
  have sameKeys : keys (h ++ [e]) name = keys h name := by
    rw [keys, List.filterMap_append, List.filterMap_cons_none noKey, List.filterMap_nil,
      List.append_nil, keys]
  have sameValues : lastValue (h ++ [e]) name = lastValue h name := by
    funext key
    rw [lastValue, List.filterMap_append, List.filterMap_cons_none (noValue key),
      List.filterMap_nil, List.append_nil, lastValue]
  rw [sectionOf, sameKeys, sameValues, sectionOf]

theorem sectionOf_opened (other : Text) :
    sectionOf (h ++ [.opened other]) name = sectionOf h name :=
  sectionOf_concat rfl fun _ => rfl

theorem sectionOf_concat_of_ne
    {e : Event}
    (apart : e.place ≠ name) :
    sectionOf (h ++ [e]) name = sectionOf h name := by
  cases e with
  | opened other => exact sectionOf_opened other
  | assigned other key value =>
      exact sectionOf_concat (if_neg apart) fun _ => if_neg fun both => apart both.1

/-! ## What is done to the file of a history -/

theorem get_file (h : History) (name : Text) : h.file.get name = h.sectionOf name := by
  rw [File.get, File.find?, file, Table.get?_tabulate]
  by_cases known : name ∈ h.names
  · rw [if_pos known]
    rfl
  · rw [if_neg known, sectionOf_of_not_mem known]
    rfl

theorem put_file
    (h : History)
    (e : Event) :
    h.file.table.put e.place (sectionOf (h ++ [e]) e.place) = (h ++ [e]).file.table := by
  rw [file, Table.put_tabulate (nodup_names h), file, names_concat]
  refine Table.tabulate_congr fun name _ => ?_
  by_cases same : name = e.place
  · rw [same, Function.update_self]
  · rw [Function.update_of_ne same, sectionOf_concat_of_ne (Ne.symm same)]

theorem touch_file (h : History) (name : Text) :
    h.file.touch name = file (h ++ [.opened name]) := by
  by_cases known : name ∈ h.names
  · have found : (h.file.find? name).isSome := by
      rw [File.find?, file, Table.get?_tabulate, if_pos known]
      rfl
    have sameNames : names (h ++ [.opened name]) = h.names :=
      (names_concat h (.opened name)).trans (if_pos known)
    rw [File.touch, if_pos found, file, file, sameNames]
    exact congrArg File.mk (Table.tabulate_congr fun other _ => (sectionOf_opened name).symm)
  · have missing : ¬ (h.file.find? name).isSome := by
      rw [File.find?, file, Table.get?_tabulate, if_neg known]
      exact Bool.false_ne_true
    have new : sectionOf (h ++ [.opened name]) name = ⟨name, []⟩ :=
      (sectionOf_opened name).trans (sectionOf_of_not_mem known)
    rw [File.touch, if_neg missing, ← new]
    exact congrArg File.mk (put_file h (.opened name))

/-- A change that an event stands for makes the file of the history with this event. -/
theorem modify_file
    {e : Event}
    {change : Section → Section}
    (place : e.place = name)
    (effect : sectionOf (h ++ [e]) name = change (sectionOf h name)) :
    h.file.modify name change = file (h ++ [e]) := by
  subst place
  have known : e.place ∈ names (h ++ [.opened e.place]) :=
    List.mem_eraseDups.2 (List.mem_map.2 ⟨.opened e.place, by simp, rfl⟩)
  have sameNames : names (h ++ [.opened e.place]) = names (h ++ [e]) := by
    rw [names_concat, names_concat]
    rfl
  -- After the lookup the section is there, so the change is made in its place.
  rw [File.modify, touch_file, get_file, ← effect, file,
    Table.put_tabulate_of_mem (nodup_names _) known, file, sameNames]
  refine congrArg File.mk (Table.tabulate_congr fun name _ => ?_)
  by_cases same : name = e.place
  · rw [same, Function.update_self]
  · rw [Function.update_of_ne same, sectionOf_opened, sectionOf_concat_of_ne (Ne.symm same)]

theorem set_file (h : History) (name key : Text) (value : Option Text) :
    h.file.set name key value = file (h ++ [.assigned name key value]) :=
  modify_file rfl sectionOf_assigned

/-! ## Accesses -/

theorem visit_file (h : History) (name : Text) (question : Question) :
    h.file.visit name question =
      (((h.sectionOf name).answer question).1, file (h ++ [question.event name])) := by
  have place : (question.event name).place = name := by
    cases question <;> rfl
  have effect : sectionOf (h ++ [question.event name]) name =
      ((h.sectionOf name).answer question).2 := by
    cases question with
    | set key value => exact sectionOf_assigned
    | _ => exact sectionOf_opened name
  have modified : h.file.modify name (fun s => (s.answer question).2) =
      file (h ++ [question.event name]) :=
    modify_file place effect
  rw [File.visit, get_file, modified]

theorem access_file (h : History) (a : Access) :
    (h.file.access a).2 = file (h ++ a.events) := by
  cases a with
  | within name question => exact congrArg Prod.snd (visit_file h name question)
  | root question => exact congrArg Prod.snd (visit_file h [] question)
  | _ => rw [File.access, Access.events, List.append_nil]

theorem after_file (h : History) (accesses : List Access) :
    h.file.after accesses = file (h ++ accesses.flatMap Access.events) := by
  induction accesses generalizing h with
  | nil => simp [File.after]
  | cons a accesses ih =>
      rw [File.after, List.foldl_cons, access_file, ← File.after, ih, List.flatMap_cons,
        List.append_assoc]

end History

end Stencil.Settings
