import Mathlib.Logic.Function.Iterate
import Stencil.Proofs.Expansion.Alignment
import Stencil.Proofs.Expansion.Transcript

/-!
Expansions that go down to the depth limit.  When every name of a chain is answered with the next
one between two texts, each level puts these texts around what the next level gives, and the name
that is reached at the limit is left.  A name that stands for itself, names that stand for each
other and values that grow are such chains.
-/
namespace Stencil.Expansion

open Block Placeholder Text

variable {σ : Type}

/-- Texts without placeholders and without line feeds, of which the one behind ends with no space
and no tab. -/
structure Surrounds (before after : Text) : Prop where
  beforeLiteral : occurrences before = []
  afterLiteral : occurrences after = []
  beforeClean : '\n' ∉ before
  afterClean : '\n' ∉ after
  afterEnds : ∀ c ∈ after.getLast?, isPad c = false

/-! ## One level -/

theorem scan_of_occurrences_nil
    {t : Text}
    (literal : occurrences t = []) :
    Template.scan t = ⟨[], t⟩ := by
  have whole := Template.render_scan t
  rcases scanned : Template.scan t with ⟨_ | ⟨cut, cuts⟩, rest⟩
  · rw [scanned] at whole
    rw [← whole]
    rfl
  · rw [occurrences, scanned] at literal
    cases literal

theorem scan_between
    {before name after : Text}
    (beforeLiteral : occurrences before = [])
    (named : isName name)
    (afterLiteral : occurrences after = []) :
    Template.scan (before ++ wrap name ++ after) = ⟨[⟨before, name⟩], after⟩ := by
  have opens : wrap name ++ after = '{' :: (name ++ ['}'] ++ after) := rfl
  have seam := Template.scan_append before (name ++ ['}'] ++ after) (c := '{') (by decide)
    (by decide)
  rw [← opens, Template.scan_wrap named, scan_of_occurrences_nil beforeLiteral,
    scan_of_occurrences_nil afterLiteral] at seam
  rw [List.append_assoc, seam]
  simp [Template.append, Template.consName]

theorem expandLevels_between
    {ask : Resolver σ}
    {before name after value : Text}
    {state answered : σ}
    (scanned : Template.scan (before ++ wrap name ++ after) = ⟨[⟨before, name⟩], after⟩)
    (answer : ask name state = (some value, answered))
    (levels : Nat) :
    expandLevels ask (levels + 1) (before ++ wrap name ++ after) state =
      let inner := expandLevels ask levels value answered
      (before ++ align inner.1 (leadOf (before.reverse ++ [])) ++ after, inner.2) := by
  simp only [expandLevels, scanned, fill, substitute, replacement, answer]

/-! ## Copies -/

/-- So many copies of a text. -/
def copies (count : Nat) (t : Text) : Text :=
  (List.replicate count t).flatten

section Copies

variable (count : Nat) (t : Text)

theorem append_copies : t ++ copies count t = copies (count + 1) t := by
  rw [copies, copies, List.replicate_succ, List.flatten_cons]

theorem copies_append : copies count t ++ t = copies (count + 1) t := by
  simp [copies, List.replicate_succ']

theorem copies_nil : copies count [] = [] :=
  List.flatten_replicate_nil

variable {count t} {c : Char}

theorem mem_of_mem_copies (member : c ∈ copies count t) : c ∈ t := by
  obtain ⟨copy, inCopies, inCopy⟩ := List.mem_flatten.1 member
  exact List.eq_of_mem_replicate inCopies ▸ inCopy

theorem mem_getLast?_of_copies (last : c ∈ (copies count t).getLast?) : c ∈ t.getLast? := by
  cases count with
  | zero => cases last
  | succ count =>
      rw [← copies_append, List.getLast?_append] at last
      cases ends : t.getLast? with
      | some d => rwa [ends] at last
      | none =>
          obtain rfl := List.getLast?_eq_none_iff.1 ends
          exact absurd (mem_of_mem_copies (List.mem_of_getLast? last)) List.not_mem_nil

end Copies

/-! ## All levels -/

section Chain

variable {ask : Resolver σ} {names : Nat → Text} {before after : Text}

/-- There is nothing to trim from what a level gives, and nothing to move. -/
theorem Surrounds.align_eq
    (around : Surrounds before after)
    {name : Text}
    (named : isName name)
    (count : Nat)
    (lead : Text) :
    align (copies count before ++ wrap name ++ copies count after) lead =
      copies count before ++ wrap name ++ copies count after := by
  refine align_of_no_feed ?_ (fun c last => ?_) lead
  · have cleanName : '\n' ∉ wrap name := by
      simp [wrap, not_mem_of_isName named isNameChar_lineFeed]
    simp only [List.mem_append, not_or]
    exact ⟨⟨fun member => around.beforeClean (mem_of_mem_copies member), cleanName⟩,
      fun member => around.afterClean (mem_of_mem_copies member)⟩
  · rw [List.getLast?_append] at last
    cases ends : (copies count after).getLast? with
    | some d =>
        obtain rfl : d = c := by simpa [ends] using last
        exact around.afterEnds d (mem_getLast?_of_copies ends)
    | none =>
        have closing : (wrap name).getLast? = some '}' := List.getLast?_concat
        obtain rfl : '}' = c := by simpa [ends, closing] using last
        rfl

/-- The reply at a level of a chain. -/
def replyAt (names : Nat → Text) (before after : Text) (level : Nat) : Reply :=
  ⟨names level, some (before ++ wrap (names (level + 1)) ++ after)⟩

/-- Each level takes its two texts from what it is given, so the induction is over all texts that
may stand around the first name. -/
theorem expandLevels_chain
    (around : Surrounds before after)
    (named : ∀ level, isName (names level))
    (answers : ∀ level state, (ask (names level) state).1 =
      some (before ++ wrap (names (level + 1)) ++ after))
    (levels : Nat)
    {head tail : Text}
    (headLiteral : occurrences head = [])
    (tailLiteral : occurrences tail = [])
    (notes : List Reply)
    (state : σ) :
    ∃ left, expandLevels ask.noted levels (head ++ wrap (names 0) ++ tail) (notes, state) =
      (head ++ (copies levels before ++ wrap (names levels) ++ copies levels after) ++ tail,
        notes ++ (List.range levels).map (replyAt names before after), left) := by
  induction levels generalizing names head tail notes state with
  | zero =>
      refine ⟨state, ?_⟩
      rw [List.range_zero, List.map_nil, List.append_nil]
      simp [expandLevels, copies]
  | succ levels ih =>
      let first := replyAt names before after 0
      have answer : ask.noted (names 0) (notes, state) =
          (some (before ++ wrap (names 1) ++ after), notes ++ [first],
            (ask (names 0) state).2) := by
        simp only [Resolver.noted, answers 0 state]
        rfl
      obtain ⟨left, inner⟩ := ih (fun level => named (level + 1))
        (fun level => answers (level + 1)) around.beforeLiteral around.afterLiteral
        (notes ++ [first]) (ask (names 0) state).2
      have text : before ++ (copies levels before ++ wrap (names (levels + 1)) ++
          copies levels after) ++ after =
          copies (levels + 1) before ++ wrap (names (levels + 1)) ++ copies (levels + 1) after := by
        rw [← append_copies, ← copies_append]
        simp only [List.append_assoc]
      have replied : notes ++ [first] ++
          (List.range levels).map (replyAt (fun level => names (level + 1)) before after) =
          notes ++ (List.range (levels + 1)).map (replyAt names before after) := by
        rw [List.range_succ_eq_map, List.map_cons, List.map_map, List.append_assoc]
        rfl
      rw [text, replied] at inner
      have scanned := scan_between headLiteral (named 0) tailLiteral
      have aligned := around.align_eq (named (levels + 1)) (levels + 1)
      refine ⟨left, ?_⟩
      rw [expandLevels_between scanned answer, inner]
      simp only [aligned]

/-- The text that a chain of answers leaves, and the replies down to the depth limit. -/
theorem expand_chain
    (around : Surrounds before after)
    (named : ∀ level, isName (names level))
    (answers : ∀ level state, (ask (names level) state).1 =
      some (before ++ wrap (names (level + 1)) ++ after))
    (state : σ) :
    (expand ask (wrap (names 0)) state).1 =
        copies depthLimit before ++ wrap (names depthLimit) ++ copies depthLimit after ∧
      replies ask (wrap (names 0)) state =
        (List.range depthLimit).map (replyAt names before after) := by
  have literal : occurrences [] = [] := rfl
  obtain ⟨left, chain⟩ :=
    expandLevels_chain around named answers depthLimit literal literal [] state
  have run := expand_noted ask (wrap (names 0)) [] state
  rw [expand_eq_expandLevels ask.noted] at run
  rw [List.nil_append, List.append_nil, List.nil_append, List.append_nil, List.nil_append] at chain
  obtain ⟨text, others⟩ := Prod.mk.inj (run.symm.trans chain)
  exact ⟨text, (Prod.mk.inj others).1⟩

end Chain

/-- A descent is cut after exactly 1024 levels: the name that is reached there is left, the texts of
all levels stand around it, and the names above it are the ones that are asked. -/
theorem descent_cut_at_limit
    {ask : Resolver σ}
    {next : Text → Text}
    {before after : Text}
    (around : Surrounds before after)
    (closed : ∀ name, isName name → isName (next name))
    (answers : ∀ name state, isName name →
      (ask name state).1 = some (before ++ wrap (next name) ++ after))
    {name : Text}
    (named : isName name)
    (state : σ) :
    (expand ask (wrap name) state).1 =
        (List.replicate 1024 before).flatten ++ wrap (next^[1024] name) ++
          (List.replicate 1024 after).flatten ∧
      asked ask (wrap name) state = (List.range 1024).map fun level => next^[level] name := by
  have namedAt : ∀ level, isName (next^[level] name) := by
    intro level
    induction level with
    | zero => exact named
    | succ level ih =>
        rw [Function.iterate_succ_apply']
        exact closed _ ih
  have answersAt : ∀ level state, (ask (next^[level] name) state).1 =
      some (before ++ wrap (next^[level + 1] name) ++ after) := by
    intro level state
    rw [Function.iterate_succ_apply']
    exact answers _ state (namedAt level)
  have limit : depthLimit = 1024 := rfl
  obtain ⟨text, notes⟩ := expand_chain around namedAt answersAt state
  rw [limit] at text notes
  rw [Function.iterate_zero_apply] at notes
  refine ⟨text, ?_⟩
  rw [asked_eq_replies, notes, List.map_map]
  exact List.map_congr_left fun _ _ => rfl

/-- Two names that stand for each other, between braces that belong to no placeholder. -/
theorem descent_cut_at_limit_mutual :
    let before := "<\x7b".toList
    let after := "\x7d >".toList
    let next : Text → Text := fun name => if name = "a".toList then "b".toList else "a".toList
    let ask : Resolver Nat := fun name count =>
      (some (before ++ wrap (next name) ++ after), count + 1)
    (expand ask "{a}".toList 0).1 =
        (List.replicate 1024 before).flatten ++ "{a}".toList ++
          (List.replicate 1024 after).flatten ∧
      asked ask "{a}".toList 0 =
        (List.range 1024).map fun level => if level % 2 = 0 then "a".toList else "b".toList := by
  intro before after next ask
  have ends : ∀ c ∈ after.getLast?, isPad c = false := by
    intro c last
    obtain rfl : '>' = c := Option.some.inj last
    rfl
  have around : Surrounds before after := ⟨by decide, by decide, by decide, by decide, ends⟩
  have closed : ∀ name, isName name → isName (next name) := by
    intro name _
    simp only [next]
    split <;> decide
  have turns : ∀ level, next^[level] "a".toList =
      if level % 2 = 0 then "a".toList else "b".toList := by
    intro level
    induction level with
    | zero => rfl
    | succ level ih =>
        rw [Function.iterate_succ_apply', ih]
        rcases Nat.mod_two_eq_zero_or_one level with even | odd
        · rw [if_pos even, if_neg (by omega)]
          rfl
        · rw [if_neg (by omega), if_pos (by omega)]
          rfl
  have answers : ∀ name count, isName name →
      (ask name count).1 = some (before ++ wrap (next name) ++ after) := fun _ _ _ => rfl
  have named : isName "a".toList := by decide
  have wrapped : wrap "a".toList = "{a}".toList := rfl
  obtain ⟨text, names⟩ := descent_cut_at_limit around closed answers named 0
  rw [wrapped, turns, if_pos (by decide), wrapped] at text
  rw [wrapped] at names
  exact ⟨text, names.trans (List.map_congr_left fun level _ => turns level)⟩

end Stencil.Expansion
