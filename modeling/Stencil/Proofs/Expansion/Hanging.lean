import Stencil.Proofs.Block.Patterns
import Stencil.Proofs.Expansion.Alignment
import Stencil.Proofs.Expansion.Refinement

/-!
Aligned blocks.  A value that replaces a placeholder keeps its lines, and when nothing but blank
characters stands before the placeholder, taking them off every line gives the value back.
-/
namespace Stencil

open Text

namespace Block

theorem longest_leadingPad (line : Text) :
    IsLongestPrefix (fun pads => ∀ c ∈ pads, isPad c) line (leadingPad line) := by
  refine ⟨List.takeWhile_prefix isPad, List.all_eq_true.1 List.all_takeWhile, ?_⟩
  rintro pads ⟨rest, rfl⟩ blank
  rw [leadingPad, List.takeWhile_append_of_pos blank, List.length_append]
  exact Nat.le_add_right _ _

end Block

namespace Expansion

open Block

/-! ## The text before a placeholder -/

/-- A line without the lines above it. -/
theorem leadOf_append
    {above lead : Text}
    (fed : ∀ c ∈ above.getLast?, c = '\n')
    (clean : '\n' ∉ lead) :
    leadOf (above ++ lead).reverse = lead := by
  have sameLine : ∀ c ∈ lead.reverse, (c != '\n') = true := by
    intro c member
    rw [bne_iff_ne]
    rintro rfl
    exact clean (List.mem_reverse.1 member)
  have ends : above.reverse.takeWhile (· != '\n') = [] := by
    cases passed : above.reverse with
    | nil => rfl
    | cons c front =>
        obtain rfl : c = '\n' := fed c (by rw [← List.head?_reverse, passed]; rfl)
        rfl
  rw [leadOf, List.reverse_append, List.takeWhile_append_of_pos sameLine, ends, List.append_nil,
    List.reverse_reverse]

theorem exists_passed
    {t : Text}
    {c : Char}
    {index : Nat}
    (found : t[index]? = some c) :
    ∃ passed rest, t = passed ++ c :: rest ∧ passed.length = index := by
  obtain ⟨inside, here⟩ := List.getElem?_eq_some_iff.1 found
  refine ⟨t.take index, t.drop (index + 1), ?_, List.length_take_of_le (Nat.le_of_lt inside)⟩
  rw [← here, ← List.drop_eq_getElem_cons inside, List.take_append_drop]

/-! ## Back to the value -/

/-- Taking an indent off every line undoes putting it after every line feed. -/
theorem deindent_afterFeeds
    {indent : Text}
    (clean : '\n' ∉ indent)
    (t : Text)
    (strict : Bool) :
    deindent (some indent) (indent ++ afterFeeds indent t) strict = .ok t := by
  induction t using lineInduction with
  | last a noFeed =>
      rw [afterFeeds_of_no_feed indent noFeed]
      exact deindent_append (by simp [clean, noFeed]) strict
  | line a rest noFeed ih =>
      rw [afterFeeds_append, afterFeeds_of_no_feed indent noFeed, afterFeeds_feed,
        ← List.append_assoc, deindent_append_feed (by simp [clean, noFeed]), ih]
      rfl

/-- A value that replaces a placeholder is trimmed, and the same indent is put after each of its line
feeds: the text before the placeholder on its line when this is blank, and the spaces and tabs at its
beginning when it is not.  A blank text before the placeholder is taken off the aligned lines
without a trace. -/
theorem aligned_reversibly
    (value template : Text)
    {index : Nat}
    (opened : template[index]? = some '{') :
    ∃ body above lead rest margin : Text,
      trySettleEdges value .suppress .suppress = .ok body ∧
      template = above ++ lead ++ '{' :: rest ∧ index = (above ++ lead).length ∧
      '\n' ∉ lead ∧ (∀ c ∈ above.getLast?, c = '\n') ∧
      (isBlankLine lead = true → margin = lead) ∧
      (isBlankLine lead = false → IsLongestPrefix (fun pads => ∀ c ∈ pads, isPad c) lead margin) ∧
      ('\n' ∉ body → alignAt value template index = body) ∧
      alignAt value template index = afterFeeds margin body ∧
      (isBlankLine lead = true →
        ∀ strict, deindent (some lead) (lead ++ alignAt value template index) strict = .ok body) := by
  obtain ⟨passed, rest, rfl, rfl⟩ := exists_passed opened
  have here : leadAt (passed ++ '{' :: rest) passed.length = leadOf passed.reverse :=
    leadAt_length passed rest (by decide)
  have clean := lineFeed_not_mem_leadOf passed.reverse
  obtain ⟨above, parts, fed⟩ := leadOf_suffix passed
  generalize leadOf passed.reverse = lead at here clean parts
  have aligned : alignAt value (passed ++ '{' :: rest) passed.length =
      afterFeeds (marginOf lead) (trimEdges value) := by
    rw [alignAt, align_eq_afterFeeds, here]
  refine ⟨trimEdges value, above, lead, rest, marginOf lead,
    trySettleEdges_eq value .suppress .suppress, by rw [← parts], by rw [← parts], clean, fed,
    fun blank => if_pos blank, fun ink => ?_, fun noFeed => ?_, aligned, fun blank strict => ?_⟩
  · rw [marginOf_of_ink clean ink]
    exact longest_leadingPad lead
  · rw [aligned, afterFeeds_of_no_feed _ noFeed]
  · rw [aligned, marginOf, if_pos blank]
    exact deindent_afterFeeds clean _ strict

/-- The column of a list item is put before its further lines, blank ones included. -/
theorem aligned_reversibly_item :
    "items:\n \t{list}".toList[9]? = some '{' ∧
    alignAt "\n- a\n\n- b \n".toList "items:\n \t{list}".toList 9 =
      "- a\n \t\n \t- b".toList ∧
    deindent (some " \t".toList) " \t- a\n \t\n \t- b".toList true = .ok "- a\n\n- b".toList := by
  have opened : "items:\n \t{list}".toList[9]? = some '{' := by decide
  obtain ⟨body, above, lead, rest, margin, trimmed, parts, position, clean, fed, blankMargin, _, _,
    aligned, back⟩ := aligned_reversibly "\n- a\n\n- b \n".toList "items:\n \t{list}".toList opened
  have passed : above ++ lead = "items:\n \t".toList :=
    (List.append_inj (parts.symm.trans
      (by rfl : _ = "items:\n \t".toList ++ "{list}".toList)) position.symm).1
  have column : lead = " \t".toList := by
    rw [← leadOf_append fed clean, passed]
    rfl
  have kept : body = "- a\n\n- b".toList := by
    refine Except.ok.inj (trimmed.symm.trans ?_)
    rw [trySettleEdges_eq]
    decide +kernel
  subst column kept
  rw [blankMargin (by decide)] at aligned
  have restored := back (by decide) true
  rw [aligned] at restored
  exact ⟨opened, aligned, restored⟩

end Expansion

end Stencil
