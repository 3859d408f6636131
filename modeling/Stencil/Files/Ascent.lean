import Stencil.Files.Tree

/-!
Searching upwards: the nearest folder, among a folder and those above it, that passes a test.
-/
namespace Stencil

def ascentLimit : Nat := 1025

namespace Location

/-- A location and those above it up to the root, at most so many. -/
def ascending : Nat → Location → List Location
  | 0, _ => []
  | count + 1, l => l :: if l.isEmpty then [] else ascending count l.dropLast

/-- The location from which a search starts: a path with a null character leads nowhere. -/
def ofStart (p : Path) (folder : Location) : Except (Obstacle × Path) Location :=
  if p.hasNull then .error (.nullCharacter, p) else .ok (p.resolve folder)

/-- The first location upwards that passes a test. -/
def search (start : Location) (test : Location → Bool) : Option Location :=
  (ascending ascentLimit start).find? test

/-- The locations that a search tests, in order: it stops at the first that passes. -/
def tested (start : Location) (test : Location → Bool) : List Location :=
  let all := ascending ascentLimit start
  let failed := all.takeWhile fun l => !test l
  failed ++ (all.drop failed.length).take 1

/-- Of the locations upwards, so many at most, the first that passes a test. -/
structure Nearest (count : Nat) (start : Location) (test : Location → Bool) (l : Location) :
    Prop where
  above : l <+: start
  within : start.length < l.length + count
  passes : test l
  first : ∀ nearer, nearer <+: start → l.length < nearer.length → test nearer = false

end Location

/-! ## Tests that leave traces -/

/-- A test of locations.  It may change a state, and it may break off the search that asks it. -/
abbrev Trial (ε σ : Type) := Location → σ → Except ε Bool × σ

namespace Trial

variable {ε σ : Type}

/-- A test that only looks. -/
def ofTest (test : Location → Bool) : Trial Empty Unit :=
  fun l state => (.ok (test l), state)

/-- Answers in the same way and writes every location down. -/
def logged (trial : Trial ε σ) : Trial ε (List Location × σ) :=
  fun l state =>
    let reply := trial l state.2
    (reply.1, state.1 ++ [l], reply.2)

/-- Climbs from a location to the first that passes.  The root, which is its own folder above, is the
last to be tried, and at most so many are. -/
def climb (trial : Trial ε σ) : Nat → Location → σ → Except ε (Option Location) × σ
  | 0, _, state => (.ok none, state)
  | count + 1, l, state =>
    match trial l state with
    | (.error e, after) => (.error e, after)
    | (.ok true, after) => (.ok (some l), after)
    | (.ok false, after) =>
      if l.dropLast = l then (.ok none, after) else climb trial count l.dropLast after

/-- Locations that are tried one after the other, and none passes. -/
inductive AllFail (trial : Trial ε σ) : List Location → σ → σ → Prop
  | nil (state : σ) : AllFail trial [] state state
  | cons {l : Location} {others : List Location} {before middle after : σ} :
      trial l before = (.ok false, middle) →
      AllFail trial others middle after →
      AllFail trial (l :: others) before after

/-- A search through locations in order: what comes out, which of them are tried and which state is
left. -/
inductive Search (trial : Trial ε σ) (locations : List Location) (before : σ) :
    Except ε (Option Location) → List Location → σ → Prop
  | found {failed beyond : List Location} {l : Location} {middle after : σ} :
      locations = failed ++ l :: beyond →
      AllFail trial failed before middle →
      trial l middle = (.ok true, after) →
      Search trial locations before (.ok (some l)) (failed ++ [l]) after
  | brokenOff {failed beyond : List Location} {l : Location} {e : ε} {middle after : σ} :
      locations = failed ++ l :: beyond →
      AllFail trial failed before middle →
      trial l middle = (.error e, after) →
      Search trial locations before (.error e) (failed ++ [l]) after
  | missing {after : σ} :
      AllFail trial locations before after →
      Search trial locations before (.ok none) locations after

end Trial

/-- The start of an ascent without its last part, its last two parts and so on, the start itself
first. -/
def Location.upwards (start : Location) : List Location :=
  (List.range (min (start.length + 1) ascentLimit)).map fun up => start.take (start.length - up)

namespace FileTree

/-- The path of the nearest file of a name, searched upwards from a location. -/
def findFile (t : FileTree) (start : Location) (name : Path) : Option Path :=
  (start.search fun l => t.isFile [] ((Path.ofLocation l).join name)).map fun l =>
    (Path.ofLocation l).join name

/-- The path of the nearest folder of a name, searched upwards from a location. -/
def findFolder (t : FileTree) (start : Location) (name : Path) : Option Path :=
  (start.search fun l => t.isFolder [] ((Path.ofLocation l).join name)).map fun l =>
    (Path.ofLocation l).join name

/-- The path that ends a search upwards because it cannot be looked at, and the obstacle there: it
comes before any that is accepted. -/
def hiddenUpwards? (t : FileTree) (accepts : Path → Bool) (start : Location) (name : Path) :
    Option (Obstacle × Path) :=
  let pathAt (l : Location) := (Path.ofLocation l).join name
  let stop := start.search fun l => accepts (pathAt l) || (t.hidden? [] (pathAt l)).isSome
  stop.bind fun l => (t.hidden? [] (pathAt l)).map fun o => (o, pathAt l)

/-- The nearest file of a name, unless a path that cannot be looked at ends the search. -/
def seekFile (t : FileTree) (start : Location) (name : Path) :
    Except (Obstacle × Path) (Option Path) :=
  match t.hiddenUpwards? (t.isFile []) start name with
  | some fault => .error fault
  | none => .ok (t.findFile start name)

/-- The nearest folder of a name, unless a path that cannot be looked at ends the search. -/
def seekFolder (t : FileTree) (start : Location) (name : Path) :
    Except (Obstacle × Path) (Option Path) :=
  match t.hiddenUpwards? (t.isFolder []) start name with
  | some fault => .error fault
  | none => .ok (t.findFolder start name)

/-- A search goes past a path: it can be looked at, and nothing of the kind is there. -/
structure PassedOver (t : FileTree) (kind : Entry → Prop) (p : Path) : Prop where
  seen : ∀ o, t.locate [] p = .error o → ¬ o.Hides
  other : ∀ e, t.at? [] p = some e → ¬ kind e

/-- What comes out of a search for an entry of a kind with a name: the path in the nearest folder
upwards that has one, or the one that ends the search because it is too long to be looked at or
leads through a folder that may not be searched. -/
inductive Seeks (t : FileTree) (kind : Entry → Prop) (start : Location) (name : Path) :
    Except (Obstacle × Path) (Option Path) → Prop
  | found {nearer beyond : List Location} {l : Location} {e : Entry} :
      start.upwards = nearer ++ l :: beyond →
      (∀ l ∈ nearer, t.PassedOver kind ((Path.ofLocation l).join name)) →
      t.at? [] ((Path.ofLocation l).join name) = some e →
      kind e →
      Seeks t kind start name (.ok (some ((Path.ofLocation l).join name)))
  | hidden {nearer beyond : List Location} {l : Location} {o : Obstacle} :
      start.upwards = nearer ++ l :: beyond →
      (∀ l ∈ nearer, t.PassedOver kind ((Path.ofLocation l).join name)) →
      t.locate [] ((Path.ofLocation l).join name) = .error o →
      o = .nameTooLong ∨ o = .denied →
      Seeks t kind start name (.error (o, (Path.ofLocation l).join name))
  | missing :
      (∀ l ∈ start.upwards, t.PassedOver kind ((Path.ofLocation l).join name)) →
      Seeks t kind start name (.ok none)

end FileTree

end Stencil
