import Mathlib.Data.List.Forall2
import Mathlib.Data.List.Induction
import Stencil.Block.Tabs
import Stencil.Proofs.Block.CommonIndent
import Stencil.Proofs.Block.Stripping

/-!
Expanded tabs keep the columns of a line.  A text is expanded from the column that what stands before
it reaches, so a line can be cut anywhere, and where a tab stop is reached the expansion starts anew.
-/
namespace Stencil.Block

variable {size column : Nat}

/-! ## Tab stops -/

theorem isTabStop_next
    (positive : 0 < size)
    (column : Nat) :
    IsTabStop size column ((column + size) / size * size) := by
  have cut := Nat.div_add_mod' column size
  have short := Nat.mod_lt column positive
  have stop : (column + size) / size * size = column / size * size + size := by
    rw [Nat.add_div_right column positive, Nat.succ_mul]
  rw [stop]
  refine ⟨⟨column / size + 1, by rw [Nat.mul_comm size, Nat.succ_mul]⟩, by omega, ?_⟩
  rintro _ ⟨count, rfl⟩ beyond
  have more : column / size < count := by
    rw [Nat.div_lt_iff_lt_mul positive, Nat.mul_comm]
    exact beyond
  rw [← Nat.succ_mul, Nat.mul_comm size]
  exact Nat.mul_le_mul_right size more

theorem IsTabStop.unique
    {stop other : Nat}
    (isStop : IsTabStop size column stop)
    (isStop' : IsTabStop size column other) :
    stop = other :=
  Nat.le_antisymm (isStop.least other isStop'.multiple isStop'.beyond)
    (isStop'.least stop isStop.multiple isStop.beyond)

/-- A tab is not wider than the tab size. -/
theorem IsTabStop.le_add
    {stop : Nat}
    (isStop : IsTabStop size column stop)
    (positive : 0 < size) :
    stop ≤ column + size := by
  have next := isTabStop_next positive column
  rw [isStop.unique next]
  exact Nat.div_mul_le_self (column + size) size

/-! ## Cutting a line -/

theorem expandTabsFrom_cons_of_ne
    (size column : Nat)
    {c : Char}
    (other : c ≠ '\t')
    (cs : Text) :
    expandTabsFrom size column (c :: cs) = c :: expandTabsFrom size (column + 1) cs := by
  rw [expandTabsFrom, if_neg other]

theorem expandTabsFrom_tab
    (positive : 0 < size)
    {stop : Nat}
    (isStop : IsTabStop size column stop)
    (cs : Text) :
    expandTabsFrom size column ('\t' :: cs) =
      List.replicate (stop - column) ' ' ++ expandTabsFrom size stop cs := by
  rw [isStop.unique (isTabStop_next positive column), expandTabsFrom, if_pos rfl]

theorem expandTabsFrom_append
    (positive : 0 < size)
    (column : Nat)
    (a b : Text) :
    expandTabsFrom size column (a ++ b) =
      expandTabsFrom size column a ++
        expandTabsFrom size (column + (expandTabsFrom size column a).length) b := by
  induction a generalizing column with
  | nil => rfl
  | cons c a ih =>
      by_cases tab : c = '\t'
      · subst tab
        have next := isTabStop_next positive column
        have reached := Nat.add_sub_of_le (Nat.le_of_lt next.beyond)
        rw [List.cons_append, expandTabsFrom_tab positive next, expandTabsFrom_tab positive next,
          ih, List.length_append, List.length_replicate, ← Nat.add_assoc, reached,
          List.append_assoc]
      · rw [List.cons_append, expandTabsFrom_cons_of_ne size column tab,
          expandTabsFrom_cons_of_ne size column tab, ih, List.length_cons, List.cons_append,
          Nat.add_assoc, Nat.add_comm 1]

/-- From a tab stop on a line is expanded as from its start. -/
theorem expandTabsFrom_shift
    (positive : 0 < size)
    (count column : Nat)
    (t : Text) :
    expandTabsFrom size (count * size + column) t = expandTabsFrom size column t := by
  induction t generalizing column with
  | nil => rfl
  | cons c t ih =>
      by_cases tab : c = '\t'
      · subst tab
        have next := isTabStop_next positive column
        have shifted : IsTabStop size (count * size + column)
            (count * size + (column + size) / size * size) := by
          have stop := isTabStop_next positive (count * size + column)
          rwa [Nat.add_assoc, Nat.mul_comm count, Nat.mul_add_div positive, Nat.add_mul,
            Nat.mul_comm size count] at stop
        rw [expandTabsFrom_tab positive next, expandTabsFrom_tab positive shifted, ih,
          Nat.add_sub_add_left]
      · rw [expandTabsFrom_cons_of_ne size _ tab, expandTabsFrom_cons_of_ne size _ tab,
          Nat.add_assoc, ih]

/-- A line that is cut at a tab stop is expanded piece by piece. -/
theorem expandTabsFrom_append_of_dvd
    (positive : 0 < size)
    {a : Text}
    (atStop : size ∣ (expandTabsFrom size 0 a).length)
    (b : Text) :
    expandTabsFrom size 0 (a ++ b) = expandTabsFrom size 0 a ++ expandTabsFrom size 0 b := by
  obtain ⟨count, width⟩ := atStop
  have anew := expandTabsFrom_shift positive count 0 b
  rw [Nat.add_zero] at anew
  rw [expandTabsFrom_append positive, Nat.zero_add, width, Nat.mul_comm, anew]

theorem expandTabsFrom_of_no_tab
    (size column : Nat)
    {t : Text}
    (plain : '\t' ∉ t) :
    expandTabsFrom size column t = t := by
  induction t generalizing column with
  | nil => rfl
  | cons c t ih =>
      rw [List.mem_cons, not_or] at plain
      rw [expandTabsFrom_cons_of_ne size column (Ne.symm plain.1), ih _ plain.2]

theorem mem_of_mem_expandTabsFrom
    {c : Char}
    {t : Text}
    (member : c ∈ expandTabsFrom size column t) :
    c = ' ' ∨ c ∈ t := by
  fun_induction expandTabsFrom size column t with
  | case1 => cases member
  | case2 column cs target ih =>
      rcases List.mem_append.1 member with inSpaces | later
      · exact .inl (List.eq_of_mem_replicate inSpaces)
      · exact (ih later).imp_right (List.mem_cons_of_mem _)
  | case3 column d cs other ih =>
      rcases List.mem_cons.1 member with rfl | later
      · exact .inr List.mem_cons_self
      · exact (ih later).imp_right (List.mem_cons_of_mem d)

/-! ## Columns -/

theorem endsAt_expandTabsFrom
    (positive : 0 < size)
    (line : Text) :
    EndsAt size line (expandTabsFrom size 0 line).length := by
  induction line using List.reverseRecOn with
  | nil => exact .start
  | append_singleton before c ih =>
      rw [expandTabsFrom_append positive, List.length_append, Nat.zero_add]
      by_cases tab : c = '\t'
      · subst tab
        have next := isTabStop_next positive (expandTabsFrom size 0 before).length
        have reached := Nat.add_sub_of_le (Nat.le_of_lt next.beyond)
        rw [expandTabsFrom_tab positive next, expandTabsFrom, List.append_nil,
          List.length_replicate, reached]
        exact .tab ih next
      · rw [expandTabsFrom_cons_of_ne size _ tab]
        exact .sign ih tab

/-- The column that a line reaches is the width of its expansion. -/
theorem endsAt_iff
    (positive : 0 < size)
    {line : Text} :
    EndsAt size line column ↔ column = (expandTabsFrom size 0 line).length := by
  constructor
  · intro ends
    induction ends with
    | start => rfl
    | sign _ other ih =>
        rw [expandTabsFrom_append positive, expandTabsFrom_cons_of_ne size _ other,
          List.length_append, ih]
        rfl
    | @tab before column stop _ isStop ih =>
        have reached := Nat.add_sub_of_le (Nat.le_of_lt isStop.beyond)
        rw [expandTabsFrom_append positive, Nat.zero_add, ← ih, expandTabsFrom_tab positive isStop,
          expandTabsFrom, List.append_nil, List.length_append, List.length_replicate, ← ih, reached]
  · rintro rfl
    exact endsAt_expandTabsFrom positive line

/-- Every character takes a column. -/
theorem expandTabsFrom_cons_ne_nil
    (positive : 0 < size)
    (column : Nat)
    (c : Char)
    (cs : Text) :
    expandTabsFrom size column (c :: cs) ≠ [] := by
  by_cases tab : c = '\t'
  · subst tab
    have next := isTabStop_next positive column
    have wide := Nat.ne_of_gt (Nat.sub_pos_of_lt next.beyond)
    rw [expandTabsFrom_tab positive next]
    simp [wide]
  · rw [expandTabsFrom_cons_of_ne size column tab]
    exact List.cons_ne_nil c _

theorem EndsAt.lt_of_longer
    (positive : 0 < size)
    {before more : Text}
    {c : Char}
    {later : Nat}
    (ends : EndsAt size before column)
    (endsLater : EndsAt size (before ++ c :: more) later) :
    column < later := by
  rw [endsAt_iff positive] at ends endsLater
  rw [ends, endsLater, expandTabsFrom_append positive, List.length_append]
  exact Nat.lt_add_of_pos_right
    (List.length_pos_of_ne_nil (expandTabsFrom_cons_ne_nil positive _ c more))

theorem keepsColumns_expandTabsFrom
    (positive : 0 < size)
    (line : Text) :
    KeepsColumns size line (expandTabsFrom size 0 line) := by
  refine ⟨endsAt_expandTabsFrom positive line, ?_, ?_⟩
  · rintro before c after rfl other
    have ends := endsAt_expandTabsFrom positive before
    rw [expandTabsFrom_append positive, expandTabsFrom_cons_of_ne size _ other]
    exact ⟨_, _, rfl, ends⟩
  · rintro before after rfl
    have ends := endsAt_expandTabsFrom positive before
    have next := isTabStop_next positive (expandTabsFrom size 0 before).length
    have reached := Nat.add_sub_of_le (Nat.le_of_lt next.beyond)
    have wide := Nat.sub_pos_of_lt next.beyond
    have narrow := Nat.sub_le_iff_le_add'.2 (next.le_add positive)
    rw [expandTabsFrom_append positive, Nat.zero_add, expandTabsFrom_tab positive next,
      ← List.append_assoc]
    rw [← reached] at next
    exact ⟨_, _, _, rfl, ends, next, wide, narrow⟩

/-! ## Blocks -/

theorem lines_append_of_fed
    {a : Text}
    (fed : ∀ c ∈ a.getLast?, c = '\n')
    (b : Text) :
    lines (a ++ b) = lines a ++ lines b := by
  induction a, fed using fedInduction with
  | nil _ => rfl
  | line a rest _ _ clean ih =>
      rw [List.append_assoc, List.cons_append, lines_append_feed clean, lines_append_feed clean, ih,
        List.cons_append]

theorem lines_flatMap_expandTabsFrom
    (positive : 0 < size)
    (block : Text) :
    lines ((lines block).flatMap (expandTabsFrom size 0)) =
      (lines block).map (expandTabsFrom size 0) := by
  have clean_expanded : ∀ {a : Text}, '\n' ∉ a → '\n' ∉ expandTabsFrom size 0 a := by
    intro a clean member
    rcases mem_of_mem_expandTabsFrom member with space | inside
    · exact absurd space (by decide)
    · exact clean inside
  induction block using lineInduction with
  | last a clean =>
      cases a with
      | nil => rfl
      | cons c cs =>
          rw [lines_of_no_feed clean (List.cons_ne_nil c cs), List.flatMap_singleton,
            lines_of_no_feed (clean_expanded clean) (expandTabsFrom_cons_ne_nil positive 0 c cs),
            List.map_singleton]
  | line a rest clean ih =>
      have fed : expandTabsFrom size 0 (a ++ ['\n']) = expandTabsFrom size 0 a ++ ['\n'] := by
        rw [expandTabsFrom_append positive, expandTabsFrom_cons_of_ne size _ (by decide)]
        rfl
      rw [lines_append_feed clean, List.flatMap_cons, List.map_cons, fed, List.append_assoc,
        List.singleton_append, lines_append_feed (clean_expanded clean), ih]

theorem flatMap_expandTabsFrom_of_no_tab
    (size : Nat)
    {block : Text}
    (plain : '\t' ∉ block) :
    (lines block).flatMap (expandTabsFrom size 0) = block := by
  have same : ∀ line ∈ lines block, expandTabsFrom size 0 line = id line := by
    intro line isLine
    refine expandTabsFrom_of_no_tab size 0 fun member => plain ?_
    rw [← flatten_lines block]
    exact List.mem_flatten_of_mem isLine member
  rw [List.flatMap_def, List.map_congr_left same, List.map_id, flatten_lines]

/-- Expanding tabs is refused for every text when a tab would be less than one column wide.
Otherwise every line keeps its columns, and more of them are reached the longer the line is; the
tabs are gone, so that nothing is left to be done a second time, and blocks of whole lines, as well
as lines that are cut at a tab stop, can be expanded one after the other. -/
theorem tabs_keep_columns (size : Int) :
    (size < 1 → ∀ text, expandTabs text size = .error (.tabSize size) ∧
      expandTabsLine text size = .error (.tabSize size)) ∧
    (1 ≤ size →
      (∀ block, ∃ spaced, expandTabs block size = .ok spaced ∧ '\t' ∉ spaced ∧
        (lines spaced).length = (lines block).length ∧
        List.Forall₂ (KeepsColumns size.toNat) (lines block) (lines spaced) ∧
        expandTabs spaced size = .ok spaced) ∧
      (∀ line, ∃ spaced, expandTabsLine line size = .ok spaced ∧ '\t' ∉ spaced ∧
        KeepsColumns size.toNat line spaced) ∧
      (∀ before c more column later, EndsAt size.toNat before column →
        EndsAt size.toNat (before ++ c :: more) later → column < later) ∧
      (∀ a b, (∀ c ∈ a.getLast?, c = '\n') → ∃ first second,
        expandTabs a size = .ok first ∧ expandTabs b size = .ok second ∧
          expandTabs (a ++ b) size = .ok (first ++ second)) ∧
      ∀ a b, ∃ first second,
        expandTabsLine a size = .ok first ∧ expandTabsLine b size = .ok second ∧
          (size ∣ first.length → expandTabsLine (a ++ b) size = .ok (first ++ second))) := by
  refine ⟨fun small text => ⟨if_pos small, if_pos small⟩, fun enough => ?_⟩
  have positive : 0 < size.toNat := Int.pos_iff_toNat_pos.1 enough
  have block_ok : ∀ block, expandTabs block size =
      .ok ((lines block).flatMap (expandTabsFrom size.toNat 0)) :=
    fun _ => if_neg (Int.not_lt.2 enough)
  have line_ok : ∀ line, expandTabsLine line size = .ok (expandTabsFrom size.toNat 0 line) :=
    fun _ => if_neg (Int.not_lt.2 enough)
  refine ⟨fun block => ?_, fun line => ?_, fun _ _ _ _ _ => EndsAt.lt_of_longer positive,
    fun a b fed => ?_, fun a b => ?_⟩
  · have plain := tab_not_mem_expandTabs (block_ok block)
    have spacedLines := lines_flatMap_expandTabsFrom positive block
    refine ⟨_, block_ok block, plain, ?_, ?_, ?_⟩
    · rw [spacedLines, List.length_map]
    · rw [spacedLines, List.forall₂_map_right_iff, List.forall₂_same]
      exact fun line _ => keepsColumns_expandTabsFrom positive line
    · rw [block_ok, flatMap_expandTabsFrom_of_no_tab size.toNat plain]
  · exact ⟨_, line_ok line, tab_not_mem_expandTabsFrom _ _ line,
      keepsColumns_expandTabsFrom positive line⟩
  · refine ⟨_, _, block_ok a, block_ok b, ?_⟩
    rw [block_ok, lines_append_of_fed fed, List.flatMap_append]
  · refine ⟨_, _, line_ok a, line_ok b, fun atStop => ?_⟩
    rw [← Int.toNat_of_nonneg (Int.le_of_lt enough), Int.natCast_dvd_natCast] at atStop
    rw [line_ok, expandTabsFrom_append_of_dvd positive atStop]

/-- Two tabs behind a column that is a tab stop already, and a tab size that is too small. -/
theorem tabs_keep_columns_stops :
    let line := "abcd\t\t".toList
    let more := "x\ty".toList
    (1 ≤ (4 : Int) ∧ expandTabsLine line 4 = .ok "abcd        ".toList ∧
      (4 : Int) ∣ ("abcd        ".toList.length : Int) ∧
      expandTabsLine (line ++ more) 4 = .ok "abcd        x   y".toList) ∧
      expandTabs "a\n\tb\n".toList 4 = .ok "a\n    b\n".toList ∧
      (0 : Int) < 1 ∧ expandTabs [] 0 = .error (.tabSize 0) := by
  intro line more
  obtain ⟨refused, -⟩ := tabs_keep_columns 0
  obtain ⟨-, expanded⟩ := tabs_keep_columns 4
  obtain ⟨-, -, -, blocks, lines⟩ := expanded (by decide)
  obtain ⟨first, second, firstSpaced, secondSpaced, whole⟩ := lines line more
  obtain ⟨above, below, aboveSpaced, belowSpaced, block⟩ :=
    blocks "a\n".toList "\tb\n".toList fun _ last => (Option.some.inj last).symm
  obtain rfl : "abcd        ".toList = first := Except.ok.inj firstSpaced
  obtain rfl : "x   y".toList = second := Except.ok.inj secondSpaced
  obtain rfl : "a\n".toList = above := Except.ok.inj aboveSpaced
  obtain rfl : "    b\n".toList = below := Except.ok.inj belowSpaced
  exact ⟨⟨by decide, firstSpaced, by decide, whole (by decide)⟩, block, by decide,
    (refused (by decide) []).1⟩

end Stencil.Block
