import Stencil.Block.Tabs
import Stencil.Proofs.Block.Stripping

/-!
The common indent of a block, and another one in its place.  The common indent is the padding of
some inked line and longer than that of none, so nothing of it is left when it is taken off.  It
need not be the beginning of every inked line, unless one and the same character makes up all the
padding.
-/
namespace Stencil.Block

open Text

/-! ## The shortest text -/

section Shortest

variable {t best : Text} {ts : List Text}

theorem foldl_shorter_mem (best : Text) (ts : List Text) :
    ts.foldl (fun best u => if u.length < best.length then u else best) best ∈ best :: ts := by
  induction ts generalizing best with
  | nil => exact List.mem_singleton.2 rfl
  | cons t ts ih =>
      rw [List.foldl_cons]
      split
      · exact List.mem_cons_of_mem best (ih t)
      · rcases List.mem_cons.1 (ih best) with same | later
        · rw [same]
          exact List.mem_cons_self
        · exact List.mem_cons_of_mem best (List.mem_cons_of_mem t later)

theorem length_foldl_shorter_le (best : Text) (ts : List Text) :
    ∀ u ∈ best :: ts,
      (ts.foldl (fun best u => if u.length < best.length then u else best) best).length ≤
        u.length := by
  induction ts generalizing best with
  | nil => simp
  | cons t ts ih =>
      rw [List.foldl_cons]
      intro u member
      split
      · next shorter =>
          have least := ih t
          rcases List.mem_cons.1 member with rfl | later
          · exact Nat.le_trans (least t List.mem_cons_self) (Nat.le_of_lt shorter)
          · exact least u later
      · next longer =>
          have least := ih best
          rcases List.mem_cons.1 member with rfl | later
          · exact least u List.mem_cons_self
          · rcases List.mem_cons.1 later with rfl | later
            · exact Nat.le_trans (least best List.mem_cons_self) (Nat.le_of_not_lt longer)
            · exact least u (List.mem_cons_of_mem best later)

theorem shortest_mem (some_text : ts ≠ []) : shortest ts ∈ ts := by
  obtain ⟨t, ts, rfl⟩ := List.exists_cons_of_ne_nil some_text
  exact foldl_shorter_mem t ts

theorem length_shortest_le (member : t ∈ ts) : (shortest ts).length ≤ t.length := by
  obtain ⟨u, ts, rfl⟩ := List.exists_cons_of_ne_nil (List.ne_nil_of_mem member)
  exact length_foldl_shorter_le u ts t member

end Shortest

/-! ## The common indent -/

section CommonIndent

variable {indent block line : Text}

theorem exists_leadingPad_eq (some_ink : inkedLines block ≠ []) :
    ∃ line ∈ inkedLines block, leadingPad line = commonIndent block :=
  List.mem_map.1 (shortest_mem (by simpa using some_ink))

theorem length_commonIndent_le (member : line ∈ inkedLines block) :
    (commonIndent block).length ≤ (leadingPad line).length :=
  length_shortest_le (List.mem_map_of_mem member)

theorem commonIndent_of_no_ink (none : inkedLines block = []) : commonIndent block = [] := by
  rw [commonIndent, none]
  rfl

theorem isPad_of_mem_leadingPad (line : Text) : ∀ c ∈ leadingPad line, isPad c :=
  List.all_eq_true.1 List.all_takeWhile

theorem isPad_of_mem_commonIndent (block : Text) : ∀ c ∈ commonIndent block, isPad c := by
  by_cases none : inkedLines block = []
  · simp [commonIndent_of_no_ink none]
  · obtain ⟨line, _, same⟩ := exists_leadingPad_eq none
    rw [← same]
    exact isPad_of_mem_leadingPad line

theorem leadingPad_append
    (pads : ∀ c ∈ indent, isPad c)
    (line : Text) :
    leadingPad (indent ++ line) = indent ++ leadingPad line :=
  List.takeWhile_append_of_pos pads

/-- What an inked line has as its padding, and all others have before more of it, is the common
indent. -/
theorem commonIndent_eq_of_shared
    (shared : ∀ other ∈ inkedLines block, indent <+: leadingPad other)
    (line : Text)
    (member : line ∈ inkedLines block)
    (alone : leadingPad line = indent) :
    commonIndent block = indent := by
  obtain ⟨other, otherMember, same⟩ := exists_leadingPad_eq (List.ne_nil_of_mem member)
  have starts := shared other otherMember
  rw [same] at starts
  have short := length_commonIndent_le member
  rw [alone] at short
  exact (starts.eq_of_length_le short).symm

theorem inkedLines_stripCommon (block : Text) :
    inkedLines (stripLines (commonIndent block) block) =
      (inkedLines block).map (stripIndent (commonIndent block)) := by
  have pads := isPad_of_mem_commonIndent block
  exact inkedLines_stripLines (lineFeed_not_mem_of_isPad pads) (isBlankLine_of_isPad pads) block

/-- Nothing of the common indent is left when it is taken off. -/
theorem commonIndent_stripLines (block : Text) :
    commonIndent (stripLines (commonIndent block) block) = [] := by
  have stripped := inkedLines_stripCommon block
  by_cases none : inkedLines block = []
  · exact commonIndent_of_no_ink (by rw [stripped, none, List.map_nil])
  · obtain ⟨line, member, same⟩ := exists_leadingPad_eq none
    obtain ⟨rest, parts⟩ : commonIndent block <+: line := same ▸ List.takeWhile_prefix isPad
    rw [← parts, leadingPad_append (isPad_of_mem_commonIndent block)] at same
    refine commonIndent_eq_of_shared (fun _ _ => List.nil_prefix) rest ?_
      (List.append_right_eq_self.1 same)
    rw [stripped]
    exact List.mem_map.2 ⟨line, member, by rw [← parts, stripIndent_append]⟩

theorem commonIndent_indentBlock
    (pads : ∀ c ∈ indent, isPad c)
    (some_ink : inkedLines block ≠ [])
    (flush : commonIndent block = []) :
    commonIndent (indentBlock indent block) = indent := by
  have indented := inkedLines_indentBlock (lineFeed_not_mem_of_isPad pads) block
  obtain ⟨line, member, same⟩ := exists_leadingPad_eq some_ink
  refine commonIndent_eq_of_shared ?_ (indent ++ line) ?_ ?_
  · rw [indented, List.forall_mem_map]
    intro other _
    rw [leadingPad_append pads]
    exact List.prefix_append _ _
  · rw [indented]
    exact List.mem_map_of_mem member
  · rw [leadingPad_append pads, same, flush, List.append_nil]

/-! ## Another indent -/

/-- A block with another indent in the place of its common one. -/
def reindented (indent block : Text) : Text :=
  indentBlock indent (stripLines (commonIndent block) block)

theorem reindent_eq (indent block : Text) (strict : Bool) :
    reindent indent block strict =
      match (inkedLines block).find? fun line =>
        strict && !(commonIndent block).isPrefixOf line with
      | some line => .error (.misindented line)
      | none => .ok (reindented indent block) := by
  rw [reindent, deindent_eq]
  cases (inkedLines block).find? _ <;> rfl

theorem reindent_lenient (indent block : Text) :
    reindent indent block false = .ok (reindented indent block) := by
  rw [reindent, deindent_lenient]
  rfl

theorem reindent_strict_error_iff {e : Error} :
    reindent indent block true = .error e ↔
      ∃ line, IsFirstAstray (commonIndent block) block line ∧ e = .misindented line := by
  simp only [reindent_eq, Bool.true_and, isFirstAstray_iff_find?]
  cases (inkedLines block).find? fun line => !(commonIndent block).isPrefixOf line with
  | none => simp
  | some line => simp [eq_comm]

theorem reindent_strict_ok_iff {result : Text} :
    reindent indent block true = .ok result ↔
      (∀ line ∈ inkedLines block, commonIndent block <+: line) ∧
        reindented indent block = result := by
  simp only [reindent_eq, Bool.true_and, ← find?_astray_eq_none_iff]
  cases (inkedLines block).find? fun line => !(commonIndent block).isPrefixOf line <;> simp

theorem exists_reindent_error_iff {strict : Bool} :
    (∃ e, reindent indent block strict = .error e) ↔
      strict ∧ ∃ line ∈ inkedLines block, ¬ commonIndent block <+: line := by
  cases strict with
  | false => simp [reindent_lenient]
  | true =>
      cases ran : reindent indent block true with
      | ok result =>
          refine iff_of_false (by simp) ?_
          rintro ⟨_, line, member, astray⟩
          exact astray ((reindent_strict_ok_iff.1 ran).1 line member)
      | error e =>
          obtain ⟨line, ⟨before, after, parts, _, astray⟩, _⟩ := reindent_strict_error_iff.1 ran
          exact iff_of_true ⟨e, rfl⟩ ⟨rfl, line, by simp [parts], astray⟩

/-- The inked lines keep what stands after the common indent. -/
theorem inkedLines_reindented
    {rests : List Text}
    (clean : '\n' ∉ indent)
    (parts : inkedLines block = rests.map (commonIndent block ++ ·)) :
    inkedLines (reindented indent block) = rests.map (indent ++ ·) := by
  rw [reindented, inkedLines_indentBlock clean, inkedLines_stripCommon, parts]
  simp [Function.comp_def]

theorem commonIndent_reindented
    (pads : ∀ c ∈ indent, isPad c)
    (some_ink : inkedLines block ≠ []) :
    commonIndent (reindented indent block) = indent := by
  refine commonIndent_indentBlock pads ?_ (commonIndent_stripLines block)
  rw [inkedLines_stripCommon]
  simpa using some_ink

/-! ## Padding of one kind -/

theorem commonIndent_prefix_of_one_kind
    {pad : Char}
    (one_kind : ∀ line ∈ inkedLines block, ∀ c ∈ leadingPad line, c = pad) :
    ∀ line ∈ inkedLines block, commonIndent block <+: line := by
  intro line member
  obtain ⟨other, otherMember, same⟩ := exists_leadingPad_eq (List.ne_nil_of_mem member)
  have repeated := one_kind other otherMember
  rw [same] at repeated
  have starts : commonIndent block <+: leadingPad line := by
    rw [List.eq_replicate_of_mem (one_kind line member), List.prefix_replicate_iff]
    exact ⟨length_commonIndent_le member, List.eq_replicate_of_mem repeated⟩
  exact starts.trans (List.takeWhile_prefix isPad)

/-- The padding of all inked lines is made of spaces only, or of tabs only. -/
def IsPaddedAlike (block : Text) : Prop :=
  (∀ line ∈ inkedLines block, ∀ c ∈ leadingPad line, c = ' ') ∨
    ∀ line ∈ inkedLines block, ∀ c ∈ leadingPad line, c = '\t'

theorem reindent_of_isPaddedAlike
    (alike : IsPaddedAlike block)
    (indent : Text)
    (strict : Bool) :
    reindent indent block strict = .ok (reindented indent block) := by
  have shared : ∀ line ∈ inkedLines block, commonIndent block <+: line := by
    rcases alike with spaces | tabs
    · exact commonIndent_prefix_of_one_kind spaces
    · exact commonIndent_prefix_of_one_kind tabs
  rw [reindent, deindent_of_shared shared]
  rfl

theorem mem_of_mem_inkedLines
    (member : line ∈ inkedLines block)
    {c : Char}
    (inside : c ∈ line) :
    c ∈ block := by
  rw [← flatten_lines block]
  exact List.mem_flatten.2 ⟨line, (List.mem_filter.1 member).1, inside⟩

theorem isPaddedAlike_of_no_tab (tabless : '\t' ∉ block) : IsPaddedAlike block := by
  refine .inl fun line member c inside => ?_
  have pad := isPad_of_mem_leadingPad line c inside
  simp only [isPad, Bool.or_eq_true, beq_iff_eq] at pad
  refine pad.resolve_right ?_
  rintro rfl
  exact tabless (mem_of_mem_inkedLines member ((List.takeWhile_prefix isPad).mem inside))

end CommonIndent

/-! ## Tabs -/

theorem tab_not_mem_expandTabsFrom (size column : Nat) (t : Text) :
    '\t' ∉ expandTabsFrom size column t := by
  fun_induction expandTabsFrom size column t with
  | case1 => exact List.not_mem_nil
  | case2 column cs target ih => simp [ih]
  | case3 column c cs other ih => simp [Ne.symm other, ih]

theorem tab_not_mem_expandTabs
    {size : Int}
    {block spaced : Text}
    (expanded : expandTabs block size = .ok spaced) :
    '\t' ∉ spaced := by
  rw [expandTabs] at expanded
  split at expanded
  · cases expanded
  cases expanded
  intro member
  obtain ⟨line, _, inside⟩ := List.mem_flatMap.1 member
  exact tab_not_mem_expandTabsFrom _ _ line inside

end Stencil.Block
