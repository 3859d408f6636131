import Mathlib.Data.List.Infix
import Stencil.Proofs.Expansion.Alignment
import Stencil.Proofs.Expansion.Transcript

/-!
Placeholders that are not answered stay in the text.  A placeholder holds no character that trimming
takes off and no line feed, so neither trimming a value nor moving its lines cuts one, and the
number of its places in a text does not fall on the way up through the values around it.
-/
namespace Stencil.Expansion

open Block Placeholder Text

/-! ## Places of a piece in a text -/

/-- At how many positions of a text a piece stands. -/
def countIn (piece text : Text) : Nat :=
  text.tails.countP piece.isPrefixOf

section CountIn

variable {piece : Text}

theorem countIn_cons (c : Char) (t : Text) :
    countIn piece (c :: t) = countIn piece t + if piece.isPrefixOf (c :: t) then 1 else 0 := by
  rw [countIn, List.tails_cons, List.countP_cons]
  rfl

theorem countIn_pos_iff (t : Text) : 0 < countIn piece t ↔ piece <:+: t := by
  simp only [countIn, List.countP_pos_iff, List.mem_tails, List.isPrefixOf_iff_prefix]
  rw [List.infix_iff_prefix_suffix]
  exact ⟨fun ⟨rest, back, front⟩ => ⟨rest, front, back⟩,
    fun ⟨rest, front, back⟩ => ⟨rest, back, front⟩⟩

variable (nonempty : piece ≠ [])

include nonempty

theorem countIn_nil : countIn piece [] = 0 := by
  simp [countIn, nonempty]

/-- Joining two texts loses no place of a piece. -/
theorem countIn_append_le (a b : Text) :
    countIn piece a + countIn piece b ≤ countIn piece (a ++ b) := by
  induction a with
  | nil => simp [countIn_nil nonempty]
  | cons c a ih =>
      have further : piece.isPrefixOf (c :: a) → piece.isPrefixOf (c :: (a ++ b)) := by
        simp only [List.isPrefixOf_iff_prefix]
        exact fun front => front.trans (List.prefix_append (c :: a) b)
      rw [List.cons_append, countIn_cons, countIn_cons]
      by_cases here : piece.isPrefixOf (c :: a)
      · rw [if_pos here, if_pos (further here)]
        omega
      · rw [if_neg here]
        omega

theorem countIn_append_append_le (a b c : Text) :
    countIn piece b + countIn piece c ≤ countIn piece (a ++ b ++ c) := by
  have front := countIn_append_le nonempty a b
  have whole := countIn_append_le nonempty (a ++ b) c
  omega

/-- A character that is not in a piece divides the places of the piece. -/
theorem countIn_seam
    {c : Char}
    (apart : c ∉ piece)
    (a b : Text) :
    countIn piece (a ++ c :: b) = countIn piece a + countIn piece b := by
  induction a with
  | nil =>
      have elsewhere : ¬ piece.isPrefixOf (c :: b) := by
        obtain ⟨d, rest, rfl⟩ := List.exists_cons_of_ne_nil nonempty
        have other : d ≠ c := fun same => apart (same ▸ List.mem_cons_self)
        simp [List.isPrefixOf, other]
      rw [List.nil_append, countIn_cons, if_neg elsewhere, countIn_nil nonempty]
      omega
  | cons d a ih =>
      have same : piece.isPrefixOf (d :: (a ++ c :: b)) = piece.isPrefixOf (d :: a) := by
        rw [Bool.eq_iff_iff, List.isPrefixOf_iff_prefix, List.isPrefixOf_iff_prefix]
        refine ⟨fun front => ?_, fun front => front.trans (List.prefix_append (d :: a) (c :: b))⟩
        rcases List.prefix_or_prefix_of_prefix front (List.prefix_append (d :: a) (c :: b)) with
          inside | ⟨more, rfl⟩
        · exact inside
        -- The piece would reach over the character.
        · cases more with
          | nil => simp
          | cons e more =>
              rw [← List.cons_append, List.prefix_append_right_inj] at front
              obtain ⟨rfl, _⟩ := List.cons_prefix_cons.1 front
              simp at apart
      rw [List.cons_append, countIn_cons, countIn_cons, ih, same]
      omega

/-- Characters that are not in a piece, put around a text, add no place of the piece. -/
theorem countIn_between
    {head tail : Text}
    (apartHead : ∀ c ∈ head, c ∉ piece)
    (apartTail : ∀ c ∈ tail, c ∉ piece)
    (t : Text) :
    countIn piece (head ++ t ++ tail) = countIn piece t := by
  have after : countIn piece (t ++ tail) = countIn piece t := by
    induction tail generalizing t with
    | nil => simp
    | cons c tail ih =>
        have apart := apartTail c List.mem_cons_self
        have rest := ih (fun d member => apartTail d (List.mem_cons_of_mem c member)) []
        rw [List.nil_append, countIn_nil nonempty] at rest
        rw [countIn_seam nonempty apart, rest, Nat.add_zero]
  induction head with
  | nil => exact after
  | cons c head ih =>
      have apart := apartHead c List.mem_cons_self
      have first := countIn_seam nonempty apart [] (head ++ t ++ tail)
      rw [countIn_nil nonempty, Nat.zero_add] at first
      exact first.trans (ih fun d member => apartHead d (List.mem_cons_of_mem c member))

theorem countIn_le_afterFeeds
    (clean : '\n' ∉ piece)
    (indent t : Text) :
    countIn piece t ≤ countIn piece (afterFeeds indent t) := by
  induction t using lineInduction with
  | last a noFeed => rw [afterFeeds_of_no_feed indent noFeed]
  | line a rest noFeed ih =>
      have moved := countIn_append_le nonempty indent (afterFeeds indent rest)
      rw [afterFeeds_append, afterFeeds_of_no_feed indent noFeed, afterFeeds_feed,
        countIn_seam nonempty clean, countIn_seam nonempty clean]
      omega

end CountIn

/-! ## Placeholders in aligned values -/

/-- A character of the edges can stand in no placeholder. -/
theorem apart_of_isEdgeChar
    {c : Char}
    (edge : isEdgeChar c) :
    isNameChar c = false ∧ c ≠ '{' ∧ c ≠ '}' := by
  simp only [isEdgeChar, isPad, Bool.or_eq_true, beq_iff_eq] at edge
  rcases edge with ((rfl | rfl) | rfl) | rfl <;> decide

theorem not_mem_wrap_of_isEdgeChar
    {name : Text}
    (named : isName name)
    {c : Char}
    (edge : isEdgeChar c) :
    c ∉ wrap name := by
  obtain ⟨other, notOpening, notClosing⟩ := apart_of_isEdgeChar edge
  simp [wrap, notOpening, notClosing, not_mem_of_isName named other]

theorem wrap_ne_nil (name : Text) : wrap name ≠ [] :=
  List.cons_ne_nil _ _

theorem countIn_le_align
    {name : Text}
    (named : isName name)
    (value lead : Text) :
    countIn (wrap name) value ≤ countIn (wrap name) (align value lead) := by
  obtain ⟨head, tail, parts, headEdge, tailEdge⟩ := eq_append_trimEdges value
  have trimmed : countIn (wrap name) value = countIn (wrap name) (trimEdges value) := by
    conv => lhs; rw [parts]
    exact countIn_between (wrap_ne_nil name)
      (fun c member => not_mem_wrap_of_isEdgeChar named (headEdge c member))
      (fun c member => not_mem_wrap_of_isEdgeChar named (tailEdge c member)) _
  have clean : '\n' ∉ wrap name := not_mem_wrap_of_isEdgeChar named (by decide)
  rw [trimmed, align_eq_afterFeeds]
  exact countIn_le_afterFeeds (wrap_ne_nil name) clean _ _

/-! ## Runs -/

variable {σ : Type} {ask : Resolver σ}

/-- Every missing answer adds a place of its placeholder. -/
theorem count_none_le_of_runs
    {name : Text}
    (named : isName name)
    {levels : Nat}
    {passed : Text}
    {t : Template}
    {state : List Reply × σ}
    {result : Text × List Reply × σ}
    (runs : Runs ask.noted levels passed t state result) :
    result.2.1.count ⟨name, none⟩ ≤
      state.1.count ⟨name, none⟩ + countIn (wrap name) result.1 := by
  have joined := countIn_append_append_le (wrap_ne_nil name)
  induction runs with
  | rest => exact Nat.le_add_right _ _
  | @kept _ _ _ cut _ _ _ tail unanswered _ ih =>
      rw [Resolver.notes_of_noted unanswered, List.count_append, List.count_singleton] at ih
      have texts := joined cut.literal (wrap cut.name) tail.1
      dsimp only
      by_cases same : cut.name = name
      · subst same
        have here : 0 < countIn (wrap cut.name) (wrap cut.name) :=
          (countIn_pos_iff _).2 (List.infix_refl _)
        rw [if_pos (by simp)] at ih
        omega
      · rw [if_neg (by simpa using same)] at ih
        omega
  | @replaced _ passed _ _ cut _ _ _ inner tail answered _ _ ihInner ih =>
      rw [Resolver.notes_of_noted answered, List.count_append, List.count_singleton,
        if_neg (by simp)] at ihInner
      have aligned := countIn_le_align named inner.1 (leadOf (cut.literal.reverse ++ passed))
      have texts := joined cut.literal
        (align inner.1 (leadOf (cut.literal.reverse ++ passed))) tail.1
      dsimp only
      omega

theorem count_none_le
    (ask : Resolver σ)
    (template : Text)
    (state : σ)
    (name : Text) :
    (replies ask template state).count ⟨name, none⟩ ≤
      countIn (wrap name) (expand ask template state).1 := by
  by_cases named : isName name
  · have counted :=
      count_none_le_of_runs named (runs_expand ask.noted template ([], state))
    rwa [List.count_nil, Nat.zero_add, expand_noted] at counted
  · have never : ⟨name, none⟩ ∉ replies ask template state :=
      fun member => named (isName_of_mem_replies member)
    rw [List.count_eq_zero_of_not_mem never]
    exact Nat.zero_le _

/-- No placeholder without an answer is lost: it stands in the expanded text at least as often as it
was not answered, and every unresolved name of a report stands there in its braces. -/
theorem unanswered_kept_verbatim
    (ask : Resolver σ)
    (template : Text)
    (state : σ) :
    (∀ name, (replies ask template state).count ⟨name, none⟩ ≤
        countIn (wrap name) (expand ask template state).1) ∧
      ∀ name ∈ (report ask template state).1.unresolved,
        wrap name <:+: (report ask template state).1.expanded := by
  refine ⟨count_none_le ask template state, fun name unresolved => ?_⟩
  have missed : 0 < (replies ask template state).count ⟨name, none⟩ :=
    List.count_pos_iff.2 ((mem_unresolved_report ask).1 unresolved)
  have places := Nat.lt_of_lt_of_le missed (count_none_le ask template state name)
  rw [report_eq_replies]
  exact (countIn_pos_iff _).1 places

/-- A name without an answer in a value of several lines, inside another one, and once more. -/
theorem unanswered_kept_verbatim_nested :
    let values : Table Text :=
      [("v".toList, "\n \n\tkey:\n  {w}\n\n".toList), ("w".toList, " \n{x}\r\n".toList)]
    let ask : Resolver Unit := .ofTexts values
    let template := "- {v}{x} \n".toList
    "x".toList ∈ (report ask template ()).1.unresolved ∧
      (replies ask template ()).count ⟨"x".toList, none⟩ = 2 ∧
      2 ≤ countIn (wrap "x".toList) (expand ask template ()).1 ∧
      wrap "x".toList <:+: (report ask template ()).1.expanded := by
  intro values ask template
  have unresolved : "x".toList ∈ (report ask template ()).1.unresolved := by
    simp only [report, expand_eq_expandLevels]
    decide +kernel
  have twice : (replies ask template ()).count ⟨"x".toList, none⟩ = 2 := by
    simp only [replies, expand_eq_expandLevels]
    decide +kernel
  obtain ⟨counted, kept⟩ := unanswered_kept_verbatim ask template ()
  exact ⟨unresolved, twice, twice ▸ counted "x".toList, kept _ unresolved⟩

end Stencil.Expansion
