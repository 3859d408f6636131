import Stencil.Proofs.Command.Gathering
import Stencil.Proofs.Release.Attributes

/-!
The sources that a run of `expand` gathers answer by their priority.
-/
namespace Stencil

open Text

/-! ## Resolvers in a row -/

theorem findSome?_toList {α β : Type} (f : α → Option β) (a? : Option α) :
    a?.toList.findSome? f = a?.bind f := by
  cases a? with
  | none => rfl
  | some a => simp

theorem findSome?_id_cons {α : Type} (a? : Option α) (rest : List (Option α)) :
    (a? :: rest).findSome? id = a?.or (rest.findSome? id) := by
  cases a? <;> rfl

namespace Resolver

variable {σ : Type}

theorem firstOf_pure (answers : List (Text → Option Text)) (name : Text) (state : σ) :
    firstOf (answers.map pure) name state = (answers.findSome? (· name), state) := by
  induction answers with
  | nil => rfl
  | cons answer answers ih =>
      rw [List.map_cons, firstOf, pure, List.findSome?_cons]
      cases answer name with
      | none => exact ih
      | some text => rfl

end Resolver

namespace Command

variable {c : Config} {w : World} {o : ExpandOptions} {start : Location}

theorem gather_environment
    (unused : o.noEnvironment)
    (environment : Table Text) :
    gather c { w with environment } start o = gather c w start o := by
  unfold gather
  rw [unused]
  rfl

/-- The sources answer as a row of questions, one for each source that is there. -/
theorem resolver_eq {σ : Type} (s : Sources) (name : Text) (state : σ) :
    s.resolver name state =
      ([s.defines.get? name,
        s.settings.bind fun chosen => chosen.get name,
        s.notes.bind fun notes => notes.attribute? s.ignoreCase name,
        s.environment.bind fun table => table.get? name].findSome? id, state) := by
  have row : (s.resolver : Resolver σ) = .firstOf (
      ([s.defines.get?] ++ (s.settings.map Settings.Section.get).toList ++
        (s.notes.map fun notes => notes.attribute? s.ignoreCase).toList ++
        (s.environment.map Table.get?).toList).map Resolver.pure) := by
    simp only [Sources.resolver, List.map_append, Option.toList_map, List.map_map,
      List.map_singleton, Release.Notes.resolver_toRecord]
    rfl
  rw [row, Resolver.firstOf_pure]
  simp only [List.findSome?_append, findSome?_toList, findSome?_id_cons, Option.bind_map,
    Option.or_assoc, List.findSome?_singleton]
  rfl

/-- A run of `expand` that has its sources answers every name from the first source that knows it,
and without the environment it does not depend on it. -/
theorem gathered_answers_by_priority
    (σ : Type)
    {log : List Logging.Record}
    {sources : Sources}
    (gathered : gather c w (searchStart w.folder o.template) o = (log, .ok sources)) :
    ∃ supply : Supply, supply.Holds c w o ∧
      (∀ name (state : σ), sources.resolver name state = (supply.answer c w o name, state)) ∧
      (o.noEnvironment → ∀ environment,
        gather c { w with environment } (searchStart w.folder o.template) o =
          (log, .ok sources)) := by
  obtain ⟨defines, settings, notes, ignoreCase, environment⟩ := gather_ok gathered
  obtain ⟨settingsPath?, file?, atSettings, holdsSettings, chosen⟩ := gatherSettings_ok settings
  obtain ⟨notesPath?, atNotes, holdsNotes⟩ := gatherNotes_ok notes
  refine ⟨⟨file?, sources.notes⟩,
    ⟨⟨settingsPath?, atSettings, holdsSettings⟩, ⟨notesPath?, atNotes, holdsNotes⟩⟩, ?_, ?_⟩
  · intro name state
    have fromEnvironment : (sources.environment.bind fun table => table.get? name) =
        if o.noEnvironment then none else w.environment.get? name := by
      rw [environment]
      cases o.noEnvironment <;> rfl
    rw [resolver_eq, get?_readDefines defines, chosen, ignoreCase, fromEnvironment, Option.bind_map]
    rfl
  · intro unused environment
    rw [gather_environment unused, gathered]

/-! A definition that is empty, a key without a value and notes without a tag, with a settings file
above the template that another one hides. -/

def layeredWorld : World :=
  .fresh {
    entries := [
      (["build.ini".toList], .file (Utf8.encode "[release]\nb = outer".toList)),
      (["site".toList], .folder),
      (["site".toList, "build.ini".toList],
        .file (Utf8.encode "a = root\n[release]\na = inner\nb = inner\nc\n".toList)),
      (["site".toList, "pages".toList], .folder),
      (["site".toList, "NEWS.md".toList], .file (Utf8.encode "## 1.2\n* Done\n".toList))] }
    ["site".toList] [] [("b".toList, "variable".toList), ("c".toList, "variable".toList),
      ("tag".toList, "variable".toList)]

def layeredOptions : ExpandOptions where
  template := "pages/index.txt".toList
  output := none
  defines := [.word "a=first".toList, .word "a=".toList, .word "d=1=2".toList]
  settings := some (.word [])
  sectionName := some (.word "release".toList)
  releaseNotes := some (.word "NEWS.md".toList)
  ignoreCase := true
  noEnvironment := false
  strict := false

def layeredSources : Sources where
  defines := [("a".toList, []), ("d".toList, "1=2".toList)]
  settings := some ⟨"release".toList,
    [("a".toList, some "inner".toList), ("b".toList, some "inner".toList), ("c".toList, none)]⟩
  notes := some ⟨"1.2".toList, none, ["Done".toList]⟩
  reserved := layeredWorld.reserved
  ignoreCase := true
  environment := some layeredWorld.environment

theorem gathered_answers_by_priority_layers :
    ∃ supply : Supply, supply.Holds .default layeredWorld layeredOptions ∧
      (["a", "b", "c", "d", "TAG", "tag", "Package_Version", "e"].map fun name =>
        supply.answer .default layeredWorld layeredOptions name.toList) =
      [some [], some "inner".toList, some "variable".toList, some "1=2".toList, none,
        some "variable".toList, some "1.2".toList, none] := by
  have gathered : gather .default layeredWorld
      (searchStart layeredWorld.folder layeredOptions.template) layeredOptions =
        ([], .ok layeredSources) := by decide +kernel
  obtain ⟨supply, holds, answers, -⟩ := gathered_answers_by_priority Unit gathered
  refine ⟨supply, holds, ?_⟩
  have answer : ∀ name, supply.answer .default layeredWorld layeredOptions name =
      (layeredSources.resolver name ()).1 := fun name => by rw [answers]
  simp only [answer]
  decide +kernel

end Command

end Stencil
