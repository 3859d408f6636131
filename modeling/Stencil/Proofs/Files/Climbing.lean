import Mathlib.Data.List.Nodup
import Mathlib.Data.List.TakeWhile
import Stencil.Proofs.Files.Ascent

/-!
Climbing.  Whatever a test does, a climb is a search through the start and the folders above it in
order, and a search for a file or a folder ends at the nearest one or at a path that cannot be looked
at.
-/
namespace Stencil

namespace Location

/-! ## The way up -/

/-- The root is the only location that is its own folder above. -/
theorem ascending_succ (count : Nat) (start : Location) :
    ascending (count + 1) start =
      start :: if start.dropLast = start then [] else ascending count start.dropLast := by
  rcases List.eq_nil_or_concat' start with rfl | ⟨above, name, rfl⟩
  · rfl
  · rw [ascending_concat, List.dropLast_concat, if_neg (by simp)]

theorem take_concat
    (above : Location)
    (name : Text)
    (up : Nat) :
    (above ++ [name]).take (above.length + 1 - (up + 1)) = above.take (above.length - up) := by
  rw [Nat.add_sub_add_right]
  exact List.take_append_of_le_length (Nat.sub_le _ _)

/-- An ascent takes the last part off as often as its count and its start allow. -/
theorem ascending_eq_map (count : Nat) (start : Location) :
    ascending count start =
      (List.range (min (start.length + 1) count)).map fun up =>
        start.take (start.length - up) := by
  induction count generalizing start with
  | zero => rw [Nat.min_zero]; rfl
  | succ count ih =>
      rcases List.eq_nil_or_concat' start with rfl | ⟨above, name, rfl⟩
      · simp [ascending]
      · have longer : (above ++ [name]).length = above.length + 1 := List.length_append
        have whole : (above ++ [name]).take (above.length + 1 - 0) = above ++ [name] :=
          List.take_of_length_le (Nat.le_of_eq longer)
        rw [ascending_concat, ih, longer, Nat.add_min_add_right, List.range_succ_eq_map,
          List.map_cons, whole, List.map_map]
        exact congrArg _ (List.map_congr_left fun up _ => (take_concat above name up).symm)

theorem ascending_eq_upwards (start : Location) : ascending ascentLimit start = start.upwards :=
  ascending_eq_map ascentLimit start

theorem length_upwards (start : Location) :
    start.upwards.length = min (start.length + 1) ascentLimit := by
  rw [upwards, List.length_map, List.length_range]

/-- No two locations upwards have the same length. -/
theorem nodup_upwards (start : Location) : start.upwards.Nodup := by
  refine List.Nodup.map_on (fun up inside other inside' same => ?_) List.nodup_range
  have lengths := congrArg List.length same
  rw [List.length_take, List.length_take] at lengths
  have below := List.mem_range.1 inside
  have below' := List.mem_range.1 inside'
  omega

variable {start l : Location} {test : Location → Bool}

theorem search_upwards_eq_none_iff :
    start.search test = none ↔ ∀ l ∈ start.upwards, test l = false := by
  rw [search, ascending_eq_upwards, List.find?_eq_none]
  simp only [Bool.not_eq_true]

theorem search_upwards_eq_some_iff :
    start.search test = some l ↔
      ∃ nearer beyond, start.upwards = nearer ++ l :: beyond ∧ (∀ l ∈ nearer, test l = false) ∧
        test l = true := by
  rw [search, ascending_eq_upwards, List.find?_eq_some_iff_append]
  simp only [Bool.not_eq_true']
  constructor
  · rintro ⟨passes, nearer, beyond, parts, fail⟩
    exact ⟨nearer, beyond, parts, fail, passes⟩
  · rintro ⟨nearer, beyond, parts, fail, passes⟩
    exact ⟨passes, nearer, beyond, parts, fail⟩

end Location

namespace Trial

variable {ε σ : Type} {trial : Trial ε σ} {locations : List Location} {before middle after : σ}

/-! ## Searches -/

theorem logged_eq
    {l : Location}
    {answer : Except ε Bool}
    (reply : trial l before = (answer, after))
    (log : List Location) :
    trial.logged l (log, before) = (answer, log ++ [l], after) := by
  simp only [logged, reply]

section Search

variable {result : Except ε (Option Location)} {tried : List Location}

theorem search_nil_iff :
    Search trial [] before result tried after ↔ (.ok none, [], before) = (result, tried, after) := by
  constructor
  · intro search
    cases search with
    | found parts => exact absurd parts (by simp)
    | brokenOff parts => exact absurd parts (by simp)
    | missing failed =>
        cases failed
        rfl
  · intro ended
    cases ended
    exact .missing (.nil before)

/-- The first of a row of locations ends a search unless it fails. -/
theorem search_cons_iff {l : Location} :
    Search trial (l :: locations) before result tried after ↔
      match trial l before with
      | (.error e, middle) => (.error e, [l], middle) = (result, tried, after)
      | (.ok true, middle) => (.ok (some l), [l], middle) = (result, tried, after)
      | (.ok false, middle) =>
        ∃ rest, l :: rest = tried ∧ Search trial locations middle result rest after := by
  constructor
  · intro search
    cases search with
    | found parts failed passes =>
        cases failed with
        | nil =>
            obtain ⟨rfl, rfl⟩ := List.cons.inj parts
            rw [passes]
            rfl
        | cons fails failed =>
            obtain ⟨rfl, others⟩ := List.cons.inj parts
            rw [fails]
            exact ⟨_, rfl, .found others failed passes⟩
    | brokenOff parts failed breaks =>
        cases failed with
        | nil =>
            obtain ⟨rfl, rfl⟩ := List.cons.inj parts
            rw [breaks]
            rfl
        | cons fails failed =>
            obtain ⟨rfl, others⟩ := List.cons.inj parts
            rw [fails]
            exact ⟨_, rfl, .brokenOff others failed breaks⟩
    | missing failed =>
        cases failed with
        | cons fails failed =>
            rw [fails]
            exact ⟨_, rfl, .missing failed⟩
  · rcases reply : trial l before with ⟨e | _ | _, middle⟩
    · rintro ended
      cases ended
      exact .brokenOff rfl (.nil before) reply
    · rintro ⟨rest, rfl, search⟩
      cases search with
      | found parts failed passes =>
          exact .found (congrArg (l :: ·) parts) (.cons reply failed) passes
      | brokenOff parts failed breaks =>
          exact .brokenOff (congrArg (l :: ·) parts) (.cons reply failed) breaks
      | missing failed => exact .missing (.cons reply failed)
    · intro ended
      cases ended
      exact .found rfl (.nil before) reply

theorem exists_search
    (trial : Trial ε σ)
    (locations : List Location)
    (before : σ) :
    ∃ result tried after, Search trial locations before result tried after := by
  induction locations generalizing before with
  | nil => exact ⟨_, _, _, .missing (.nil before)⟩
  | cons l locations ih =>
      rcases reply : trial l before with ⟨e | _ | _, middle⟩
      · exact ⟨_, _, _, .brokenOff rfl (.nil before) reply⟩
      · obtain ⟨result, rest, after, search⟩ := ih middle
        refine ⟨result, l :: rest, after, search_cons_iff.2 ?_⟩
        rw [reply]
        exact ⟨rest, rfl, search⟩
      · exact ⟨_, _, _, .found rfl (.nil before) reply⟩

/-- A climb searches the locations of the ascent, at each of its three ends. -/
theorem climb_eq_iff
    {count : Nat}
    {start : Location}
    (log : List Location) :
    trial.logged.climb count start (log, before) = (result, log ++ tried, after) ↔
      Search trial (start.ascending count) before result tried after := by
  induction count generalizing start log before result tried after with
  | zero =>
      rw [climb, Location.ascending, search_nil_iff]
      simp
  | succ count ih =>
      rw [climb, Location.ascending_succ, search_cons_iff]
      rcases reply : trial start before with ⟨e | _ | _, middle⟩
      · rw [logged_eq reply]
        simp only [Prod.mk.injEq, List.append_cancel_left_eq]
      · rw [logged_eq reply]
        by_cases root : start.dropLast = start
        · simp only [if_pos root, search_nil_iff]
          constructor
          · intro ended
            simp only [Prod.mk.injEq, List.append_cancel_left_eq] at ended
            obtain ⟨rfl, rfl, rfl⟩ := ended
            exact ⟨[], rfl, rfl⟩
          · rintro ⟨rest, rfl, ended⟩
            cases ended
            rfl
        · simp only [if_neg root]
          constructor
          · -- That the log only grows is known from a search of what is left.
            intro climbed
            obtain ⟨_, rest, _, search⟩ := exists_search trial
              (Location.ascending count start.dropLast) middle
            rw [(ih _).2 search, List.append_assoc] at climbed
            simp only [Prod.mk.injEq, List.append_cancel_left_eq] at climbed
            obtain ⟨rfl, rfl, rfl⟩ := climbed
            exact ⟨rest, rfl, search⟩
          · rintro ⟨rest, rfl, search⟩
            rw [List.append_cons log _ rest]
            exact (ih _).2 search
      · rw [logged_eq reply]
        simp only [Prod.mk.injEq, List.append_cancel_left_eq]

end Search

/-- Writing down what is tried has no effect on a climb. -/
theorem climb_logged
    (trial : Trial ε σ)
    (count : Nat)
    (start : Location)
    (log : List Location)
    (before : σ) :
    trial.climb count start before =
      ((trial.logged.climb count start (log, before)).1,
        (trial.logged.climb count start (log, before)).2.2) := by
  induction count generalizing start log before with
  | zero => rfl
  | succ count ih =>
      rw [climb, climb]
      rcases reply : trial start before with ⟨e | _ | _, middle⟩
      · rw [logged_eq reply]
      · rw [logged_eq reply]
        simp only
        split
        · rfl
        · exact ih start.dropLast (log ++ [start]) middle
      · rw [logged_eq reply]

theorem climb_eq_iff_exists
    {count : Nat}
    {start : Location}
    {result : Except ε (Option Location)} :
    trial.climb count start before = (result, after) ↔
      ∃ tried, Search trial (start.ascending count) before result tried after := by
  rw [climb_logged trial count start [] before]
  constructor
  · intro climbed
    obtain ⟨rfl, rfl⟩ := Prod.mk.inj climbed
    exact ⟨_, (climb_eq_iff []).1 rfl⟩
  · rintro ⟨tried, search⟩
    rw [(climb_eq_iff []).2 search]

/-! ## Tests that only look -/

theorem allFail_ofTest
    {test : Location → Bool}
    (fail : ∀ l ∈ locations, test l = false) :
    AllFail (ofTest test) locations () () := by
  induction locations with
  | nil => exact .nil ()
  | cons l locations ih =>
      have first : ofTest test l () = (.ok false, ()) := by
        rw [ofTest, fail l List.mem_cons_self]
      exact .cons first (ih fun other inside => fail other (List.mem_cons_of_mem l inside))

theorem search_ofTest (test : Location → Bool) (start : Location) :
    Search (ofTest test) start.upwards () (.ok (start.search test)) (start.tested test) () := by
  rw [Location.tested, Location.ascending_eq_upwards]
  cases found : start.search test with
  | none =>
      have fail := Location.search_upwards_eq_none_iff.1 found
      have all : (start.upwards.takeWhile fun l => !test l) = start.upwards :=
        List.takeWhile_eq_self_iff.2 fun l inside => by rw [fail l inside]; rfl
      rw [all, List.drop_length, List.take_nil, List.append_nil]
      exact .missing (allFail_ofTest fail)
  | some l =>
      obtain ⟨nearer, beyond, parts, fail, passes⟩ :=
        Location.search_upwards_eq_some_iff.1 found
      have first : ((nearer ++ l :: beyond).takeWhile fun l => !test l) = nearer := by
        rw [List.takeWhile_append_of_pos fun l inside => by rw [fail l inside]; rfl,
          List.takeWhile_cons_of_neg, List.append_nil]
        rw [passes]
        exact Bool.false_ne_true
      rw [parts, first, List.drop_left]
      exact .found rfl (allFail_ofTest fail) (by rw [ofTest, passes])

end Trial

namespace FileTree

/-! ## Paths that are looked at -/

variable {t : FileTree} {kind : Entry → Prop} {accepts : Path → Bool} {p : Path}

theorem isFile_iff :
    t.isFile [] p = true ↔ ∃ e, t.at? [] p = some e ∧ ∃ content, e = .file content := by
  rw [isFile]
  split
  · next content here => exact iff_of_true rfl ⟨_, here, content, rfl⟩
  · next other =>
      refine iff_of_false Bool.false_ne_true ?_
      rintro ⟨_, here, content, rfl⟩
      exact other content here

theorem isFolder_iff : t.isFolder [] p = true ↔ ∃ e, t.at? [] p = some e ∧ e = .folder := by
  simp [isFolder]

theorem hidden?_eq_some_iff {o : Obstacle} :
    t.hidden? [] p = some o ↔ t.locate [] p = .error o ∧ o.Hides := by
  rw [hidden?]
  split
  · next obstacle blocked =>
      rw [blocked, Except.error.injEq]
      split
      · next hides =>
          rw [Option.some.injEq]
          constructor
          · rintro rfl
            exact ⟨rfl, hides⟩
          · exact And.left
      · next open_way =>
          refine iff_of_false nofun ?_
          rintro ⟨rfl, hides⟩
          exact open_way hides
  · next l located =>
      rw [located]
      exact iff_of_false nofun fun ⟨blocked, _⟩ => nomatch blocked

theorem hidden?_of_at?
    {e : Entry}
    (here : t.at? [] p = some e) :
    t.hidden? [] p = none := by
  rw [at?] at here
  rw [hidden?]
  split at here
  · next l located => rw [located]
  · cases here

section Seeks

variable {start : Location} {name : Path} {result : Except (Obstacle × Path) (Option Path)}

theorem passedOver_iff
    (agrees : ∀ p, accepts p = true ↔ ∃ e, t.at? [] p = some e ∧ kind e) :
    t.PassedOver kind p ↔ (accepts p || (t.hidden? [] p).isSome) = false := by
  rw [Bool.or_eq_false_iff, ← Bool.not_eq_true, agrees, Option.isSome_eq_false_iff,
    Option.isNone_iff_eq_none, Option.eq_none_iff_forall_ne_some]
  constructor
  · rintro ⟨seen, other⟩
    refine ⟨fun ⟨e, here, same⟩ => other e here same, fun o hidden => ?_⟩
    obtain ⟨blocked, hides⟩ := hidden?_eq_some_iff.1 hidden
    exact seen o blocked hides
  · rintro ⟨other, seen⟩
    exact ⟨fun o blocked hides => seen o (hidden?_eq_some_iff.2 ⟨blocked, hides⟩),
      fun e here same => other ⟨e, here, same⟩⟩

theorem exists_seeks
    (t : FileTree)
    (kind : Entry → Prop)
    (start : Location)
    (name : Path)
    (agrees : ∀ p, accepts p = true ↔ ∃ e, t.at? [] p = some e ∧ kind e) :
    ∃ result, t.Seeks kind start name result := by
  let stops (l : Location) : Bool :=
    accepts ((Path.ofLocation l).join name) ||
      (t.hidden? [] ((Path.ofLocation l).join name)).isSome
  cases found : start.search stops with
  | none =>
      refine ⟨.ok none, .missing fun l inside => (passedOver_iff agrees).2 ?_⟩
      exact Location.search_upwards_eq_none_iff.1 found l inside
  | some l =>
      obtain ⟨nearer, beyond, parts, fail, here⟩ := Location.search_upwards_eq_some_iff.1 found
      have passed : ∀ l ∈ nearer, t.PassedOver kind ((Path.ofLocation l).join name) :=
        fun l inside => (passedOver_iff agrees).2 (fail l inside)
      rcases Bool.or_eq_true_iff.1 here with accepted | hidden
      · obtain ⟨e, there, same⟩ := (agrees _).1 accepted
        exact ⟨_, .found parts passed there same⟩
      · obtain ⟨o, reason⟩ := Option.isSome_iff_exists.1 hidden
        obtain ⟨blocked, hides⟩ := hidden?_eq_some_iff.1 reason
        exact ⟨_, .hidden parts passed blocked hides⟩

theorem Seeks.settles
    (agrees : ∀ p, accepts p = true ↔ ∃ e, t.at? [] p = some e ∧ kind e)
    (seeks : t.Seeks kind start name result) :
    (match t.hiddenUpwards? accepts start name with
      | some fault => .error fault
      | none => .ok ((start.search fun l => accepts ((Path.ofLocation l).join name)).map fun l =>
          (Path.ofLocation l).join name)) = result := by
  have fails {p : Path} (passed : t.PassedOver kind p) :
      (accepts p || (t.hidden? [] p).isSome) = false := (passedOver_iff agrees).1 passed
  rw [hiddenUpwards?]
  cases seeks with
  | found parts passed here same =>
      have accepted := (agrees _).2 ⟨_, here, same⟩
      have stop := Location.search_upwards_eq_some_iff.2
        ⟨_, _, parts, fun l inside => fails (passed l inside), Bool.or_eq_true_iff.2 (.inl accepted)⟩
      have nearest := Location.search_upwards_eq_some_iff.2
        ⟨_, _, parts, fun l inside => (Bool.or_eq_false_iff.1 (fails (passed l inside))).1, accepted⟩
      simp only [stop, nearest, Option.map_some, Option.bind_some, hidden?_of_at? here,
        Option.map_none]
  | hidden parts passed blocked hides =>
      have reason := hidden?_eq_some_iff.2 ⟨blocked, hides⟩
      have stop := Location.search_upwards_eq_some_iff.2
        ⟨_, _, parts, fun l inside => fails (passed l inside),
          Bool.or_eq_true_iff.2 (.inr (Option.isSome_of_eq_some reason))⟩
      simp only [stop, Option.bind_some, reason, Option.map_some]
  | missing passed =>
      have stop := Location.search_upwards_eq_none_iff.2 fun l inside => fails (passed l inside)
      have nearest := Location.search_upwards_eq_none_iff.2 fun l inside =>
        (Bool.or_eq_false_iff.1 (fails (passed l inside))).1
      simp only [stop, nearest]
      rfl

theorem settled_iff_seeks
    (agrees : ∀ p, accepts p = true ↔ ∃ e, t.at? [] p = some e ∧ kind e) :
    (match t.hiddenUpwards? accepts start name with
      | some fault => .error fault
      | none => .ok ((start.search fun l => accepts ((Path.ofLocation l).join name)).map fun l =>
          (Path.ofLocation l).join name)) = result ↔
      t.Seeks kind start name result := by
  refine ⟨?_, Seeks.settles agrees⟩
  rintro rfl
  obtain ⟨result, seeks⟩ := exists_seeks t kind start name agrees
  rwa [seeks.settles agrees]

theorem seekFile_eq_iff :
    t.seekFile start name = result ↔
      t.Seeks (fun e => ∃ content, e = .file content) start name result :=
  settled_iff_seeks fun _ => isFile_iff

theorem seekFolder_eq_iff :
    t.seekFolder start name = result ↔ t.Seeks (· = .folder) start name result :=
  settled_iff_seeks fun _ => isFolder_iff

end Seeks

end FileTree

/-- Whatever its test does, a climb tries the start and the folders above it in order, each once; it
ends with the first that passes, at the root or after so many of them.  A search for a file or a
folder ends in the nearest folder that has one, or before that at a path that cannot be looked at,
because it is too long or leads through a folder that may not be searched. -/
theorem ascent_to_nearest (start : Location) :
    (start.upwards.length = min (start.length + 1) ascentLimit ∧ start.upwards.Nodup) ∧
    (∀ (ε σ : Type) (trial : Trial ε σ) before result after,
      (∀ tried,
        trial.logged.climb ascentLimit start ([], before) = (result, tried, after) ↔
          trial.Search start.upwards before result tried after) ∧
      (trial.climb ascentLimit start before = (result, after) ↔
        ∃ tried, trial.Search start.upwards before result tried after)) ∧
    (∀ test,
      (Trial.ofTest test).Search start.upwards () (.ok (start.search test)) (start.tested test) () ∧
      (start.search test = none ↔ ∀ l ∈ start.upwards, test l = false)) ∧
    ∀ (t : FileTree) name result,
      (t.seekFile start name = result ↔
        t.Seeks (fun e => ∃ content, e = .file content) start name result) ∧
      (t.seekFolder start name = result ↔ t.Seeks (· = .folder) start name result) := by
  refine ⟨⟨start.length_upwards, start.nodup_upwards⟩, ?_, ?_, ?_⟩
  · intro ε σ trial before result after
    rw [← Location.ascending_eq_upwards]
    exact ⟨fun tried => Trial.climb_eq_iff [], Trial.climb_eq_iff_exists⟩
  · exact fun test => ⟨Trial.search_ofTest test start, Location.search_upwards_eq_none_iff⟩
  · exact fun t name result => ⟨FileTree.seekFile_eq_iff, FileTree.seekFolder_eq_iff⟩

/-- A folder, and a locked one in it that may not be searched. -/
def lockedTree : FileTree where
  entries := [(["base".toList], .folder), (["base".toList, "locked".toList], .folder)]
  barred := [(["base".toList, "locked".toList], .search)]

/-- No folder upwards has a file of this name, and the search does not say so: the name is too long,
or the search starts in a folder that may not be searched. -/
theorem hiddenPath_ends_search :
    let start : Location := ["base".toList]
    let locked : Location := ["base".toList, "locked".toList]
    let long : Path := ⟨0, [List.replicate 256 'a']⟩
    let plain : Path := ⟨0, ["a".toList]⟩
    (∀ l ∈ start.upwards, lockedTree.at? [] ((Path.ofLocation l).join long) = none) ∧
      lockedTree.seekFile start long = .error (.nameTooLong, (Path.ofLocation start).join long) ∧
      (∀ l ∈ locked.upwards, lockedTree.get? (l ++ plain.parts) = none) ∧
      lockedTree.seekFile locked plain = .error (.denied, (Path.ofLocation locked).join plain) ∧
      lockedTree.seekFile start plain = .ok none := by
  decide +kernel

end Stencil
