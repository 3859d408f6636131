import Stencil.Proofs.Settings.Reading
import Stencil.Settings.Store

/-!
Runs of a settings file.  At every point of a run the file is the one of its history, and so the
laws of an ordered store hold of it; the next access answers from the history and has no effect
beyond its own.
-/
namespace Stencil.Settings

variable {h : History} {f : File} {name : Text}

/-! ## Starts -/

theorem Begins.eq_file (start : Begins f h) : f = h.file := by
  cases start with
  | empty => rfl
  | read clean parsed =>
      rw [File.ofLines_eq_file clean] at parsed
      exact (Except.ok.inj parsed).symm

/-! ## The file of a history -/

namespace History

theorem isInhabited_iff : h.isInhabited name ↔ ∃ key value, Event.assigned name key value ∈ h := by
  rw [← keys_ne_nil, isInhabited]
  simp

theorem lastValue_of_not_mem {key : Text} (unknown : key ∉ h.keys name) :
    h.lastValue name key = none := by
  have silent : h.filterMap (Event.valueOf? name key) = [] := by
    rw [List.filterMap_eq_nil_iff]
    intro e member
    cases e with
    | opened other => rfl
    | assigned other otherKey value =>
        refine if_neg ?_
        rintro ⟨rfl, rfl⟩
        exact unknown (mem_keys.2 ⟨value, member⟩)
  rw [lastValue, silent]
  rfl

theorem get_sectionOf (h : History) (name key : Text) :
    (h.sectionOf name).get key = h.lastValue name key := by
  rw [Section.get, sectionOf, Table.get?_tabulate]
  by_cases known : key ∈ h.keys name
  · rw [if_pos known]
    rfl
  · rw [if_neg known, lastValue_of_not_mem known]
    rfl

theorem keys_sectionOf (h : History) (name : Text) :
    (h.sectionOf name).entries.names = h.keys name :=
  Table.names_tabulate

theorem hasKeys_sectionOf (h : History) (name : Text) :
    (h.sectionOf name).hasKeys = h.isInhabited name := by
  rw [Section.hasKeys, sectionOf, Table.tabulate, List.isEmpty_map, isInhabited]

theorem answer_sectionOf (h : History) (name : Text) (question : Question) :
    ((h.sectionOf name).answer question).1 = h.answerIn name question := by
  cases question with
  | get key => exact congrArg Answer.value (get_sectionOf h name key)
  | contains key => rw [Section.answer, Section.contains, Table.has, keys_sectionOf, answerIn]
  | keys => rw [Section.answer, Section.keys, keys_sectionOf, answerIn]
  | hasKeys => rw [Section.answer, hasKeys_sectionOf, answerIn]
  | expand template =>
      have asked : (Source.settings (h.sectionOf name)).resolver false =
          (Resolver.pure (h.lastValue name) : Resolver Unit) :=
        congrArg Resolver.pure (funext (get_sectionOf h name))
      rw [Section.answer, Source.expand, asked, answerIn]
  | _ => rfl

theorem names_file (h : History) : h.file.table.names = h.names :=
  Table.names_tabulate

theorem find?_file (h : History) (name : Text) :
    h.file.find? name = if name ∈ h.names then some (h.sectionOf name) else none :=
  Table.get?_tabulate name

theorem sections_file (h : History) : h.file.sections = h.names.map h.sectionOf := by
  rw [File.sections, file, Table.tabulate, List.map_map]
  rfl

theorem hasSection_file (h : History) (name : Text) :
    h.file.hasSection name = h.isInhabited name := by
  rw [File.hasSection, find?_file]
  by_cases known : name ∈ h.names
  · rw [if_pos known]
    exact hasKeys_sectionOf h name
  · rw [if_neg known, isInhabited, keys_eq_nil_of_not_mem known]
    rfl

theorem inhabited_file (h : History) :
    h.file.inhabited = (h.names.filter h.isInhabited).map h.sectionOf := by
  have same : Section.hasKeys ∘ h.sectionOf = h.isInhabited := funext (hasKeys_sectionOf h)
  rw [File.inhabited, sections_file, List.filter_map, same]

theorem follows_file (h : History) : Follows h.file h where
  named := by
    intro e member
    obtain ⟨name, _, rfl⟩ := List.mem_map.1 member
    rfl
  names := names_file h
  keys := by
    intro name
    rw [get_file, Section.keys, keys_sectionOf]
  distinctNames := by
    rw [names_file]
    exact nodup_names h
  distinctKeys := by
    intro s member
    rw [sections_file] at member
    obtain ⟨name, _, rfl⟩ := List.mem_map.1 member
    rw [Section.keys, keys_sectionOf]
    exact nodup_keys h name
  value := by
    intro name key
    rw [get_file, get_sectionOf]
  inhabited := by
    intro name
    rw [hasSection_file, isInhabited_iff]
  sections := inhabited_file h

/-! ## One access -/

theorem answer_file (h : History) (a : Access) : (h.file.access a).1 = h.answer a := by
  cases a with
  | within name question => rw [File.access, visit_file, answer_sectionOf, answer]
  | root question => rw [File.access, visit_file, answer_sectionOf, answer]
  | hasSection name => rw [File.access, hasSection_file, answer]
  | sections => rw [File.access, inhabited_file, answer]

theorem keeps_file (h more : History) : Keeps h.file (file (h ++ more)) where
  names := by
    rw [names_file, names_file, names, names, List.map_append]
    exact eraseDups_prefix _ _
  keys := by
    intro name
    rw [get_file, get_file, Section.keys, Section.keys, keys_sectionOf, keys_sectionOf, keys, keys,
      List.filterMap_append]
    exact eraseDups_prefix _ _

theorem adds_file (h : History) (name : Text) : Adds name h.file (file (h ++ [.opened name])) := by
  rw [← touch_file, File.touch]
  split
  · exact .inl rfl
  · next missing =>
      have unknown : name ∉ h.file.table.names := fun known => missing (Table.isSome_get?.2 known)
      exact .inr ⟨unknown, Table.put_of_not_mem unknown _⟩

theorem sets_file (h : History) (name key : Text) (value : Option Text) :
    Sets name key value h.file (file (h ++ [.assigned name key value])) where
  assigned := by
    rw [get_file, sectionOf_assigned, Section.set, Table.get?_put, if_pos rfl]
  otherKeys := by
    intro other apart
    rw [get_file, get_file, sectionOf_assigned, Section.set, Table.get?_put, if_neg apart.symm]
  otherSections := by
    intro other apart
    have sameMember : other ∈ names (h ++ [.assigned name key value]) ↔ other ∈ h.names := by
      rw [names_concat]
      split
      · rfl
      · rw [List.mem_append, List.mem_singleton]
        exact or_iff_left apart
    have sameSection : sectionOf (h ++ [.assigned name key value]) other = h.sectionOf other :=
      sectionOf_concat_of_ne apart.symm
    rw [find?_file, find?_file, sameSection]
    simp only [sameMember]
  names := by
    rw [names_file, names_file, names_concat]
    split
    · exact .inl rfl
    · next unknown => exact .inr ⟨unknown, rfl⟩

theorem effect_file (h : History) (a : Access) : a.Effect h.file (h.file.access a).2 := by
  rw [access_file]
  cases a with
  | within name question =>
      cases question with
      | set key value => exact sets_file h name key value
      | _ => exact adds_file h name
  | root question =>
      cases question with
      | set key value => exact sets_file h [] key value
      | _ => exact adds_file h []
  | _ => exact congrArg file (List.append_nil h)

end History

/-! ## Runs -/

/-- At every point of a run the file is an ordered store of what happened to it, it will keep what
it has, and the next access answers from the history and changes no more than it should. -/
theorem run_follows_history
    {start : File}
    {before : History}
    (begins : Begins start before)
    (accesses : List Access) :
    let f := start.after accesses
    let h := before ++ accesses.flatMap Access.events
    Follows f h ∧
      (∀ more, Keeps f (f.after more)) ∧
      ∀ a, (f.access a).1 = h.answer a ∧ a.Effect f (f.access a).2 := by
  intro f h
  -- From here on nothing is used of the run but its history.
  have same : f = h.file := by
    rw [← History.after_file, ← begins.eq_file]
  rw [same]
  refine ⟨h.follows_file, ?_, fun a => ⟨h.answer_file a, h.effect_file a⟩⟩
  intro more
  rw [History.after_file]
  exact h.keeps_file _

theorem run_follows_history_reopened :
    let lines := ["[b]".toList, "k = 1".toList, "[a]".toList, "[b]".toList, "j".toList,
      "k = 2".toList]
    let accesses : List Access := [.hasSection "d".toList, .within "c".toList (.get "k".toList),
      .root (.set "r".toList (some "x".toList)), .within "a".toList (.expand "{k}".toList),
      .within "b".toList (.set "i".toList none), .sections]
    (∀ line ∈ lines, '\n' ∉ line) ∧ ∃ start, File.ofLines lines = .ok start ∧
      let f := start.after accesses
      f.table.names = [[], "b".toList, "a".toList, "c".toList] ∧
        (f.get "b".toList).get "k".toList = some "2".toList ∧
        (f.access (.within "b".toList .keys)).1 =
          .keys ["k".toList, "j".toList, "i".toList] ∧
        (f.access (.hasSection "a".toList)).1 = .flag false ∧
        f.inhabited.map Section.name = [[], "b".toList] := by
  intro lines accesses
  have clean : ∀ line ∈ lines, '\n' ∉ line := by decide +kernel
  obtain ⟨start, parsed⟩ : ∃ start, File.ofLines lines = .ok start :=
    ⟨_, File.ofLines_eq_file clean⟩
  obtain ⟨laws, _, next⟩ := run_follows_history (.read clean parsed) accesses
  refine ⟨clean, start, parsed, ?_, ?_, ?_, ?_, ?_⟩
  · rw [laws.names]
    decide +kernel
  · rw [laws.value]
    decide +kernel
  · rw [(next _).1]
    decide +kernel
  · rw [(next _).1]
    decide +kernel
  · rw [laws.sections]
    decide +kernel

end Stencil.Settings
