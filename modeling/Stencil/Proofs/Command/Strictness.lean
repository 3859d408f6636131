import Stencil.Proofs.Command.Outcomes

/-!
Strict requests that cannot be refused.  When the padding of all inked lines is made of spaces only,
or of tabs only, the common indent is the beginning of every inked line.  Expanded tabs leave spaces
only, so `reindent --tabs --strict` does its work on every text that can be read.
-/
namespace Stencil.Command

open Text

variable {c : Config} {w : World} {o : ReindentOptions} {text : Text}

/-- The text is left with padding of one kind: its tabs are expanded, or it has such padding
itself. -/
def SpacedAlike (c : Config) (o : ReindentOptions) (text : Text) : Prop :=
  o.tabs = true ∧ 1 ≤ c.tabSize ∨ o.tabs = false ∧ Block.IsPaddedAlike text

theorem reindent_expandTabs
    {size : Int}
    (positive : 1 ≤ size)
    (block indent : Text) :
    ∃ expanded, Block.expandTabs block size = .ok expanded ∧
      Block.reindent indent expanded true = .ok (Block.reindented indent expanded) := by
  have expanded : Block.expandTabs block size = .ok _ := if_neg (Int.not_lt.2 positive)
  have alike := Block.isPaddedAlike_of_no_tab (Block.tab_not_mem_expandTabs expanded)
  exact ⟨_, expanded, Block.reindent_of_isPaddedAlike alike indent true⟩

theorem exists_spaced
    (alike : SpacedAlike c o text)
    (strict : o.strict = true) :
    ∃ expanded, spaced c o text = .ok expanded ∧
      Block.reindent o.indent.text expanded o.strict =
        .ok (Block.reindented o.indent.text expanded) := by
  rw [strict]
  rcases alike with ⟨expands, positive⟩ | ⟨keeps, padded⟩
  · rw [spaced, if_pos expands]
    exact reindent_expandTabs positive text o.indent.text
  · rw [spaced, keeps]
    exact ⟨text, rfl, Block.reindent_of_isPaddedAlike padded o.indent.text true⟩

theorem runReindent_of_ok
    {expanded result : Text}
    (read : readInput w o.file = .ok text)
    (tabless : spaced c o text = .ok expanded)
    (done : Block.reindent o.indent.text expanded o.strict = .ok result)
    (taken : w.refusal? result = none) :
    runReindent c w o = ⟨.returned 0, result, [], w.tree, []⟩ := by
  rw [spaced] at tabless
  simp only [runReindent, read, tabless, done, printed_of_taken taken]

/-- A strict request to put an indent in the place of the common one is not refused when tabs have
been expanded, whatever their size, and neither when the padding of all inked lines is made of
spaces only, or of tabs only.  The command then prints the block and reports success for every text
that can be read, unless the standard output does not take the block, and so does the program once
its log is set up. -/
theorem strict_never_refused :
    (∀ (block indent : Text) (size : Int), 1 ≤ size → ∃ expanded result,
      Block.expandTabs block size = .ok expanded ∧ '\t' ∉ expanded ∧
      Block.reindent indent expanded true = .ok result) ∧
    (∀ block indent : Text, Block.IsPaddedAlike block →
      ∃ result, Block.reindent indent block true = .ok result) ∧
    ∀ (c : Config) (o : ReindentOptions) (text : Text), o.strict = true → SpacedAlike c o text →
      ∃ expanded result, spaced c o text = .ok expanded ∧
        Block.reindent o.indent.text expanded true = .ok result ∧
        (∀ w : World, readInput w o.file = .ok text → w.refusal? result = none →
          runReindent c w o = ⟨.returned 0, result, [], w.tree, []⟩) ∧
        ∀ (w : World) (words : List Text) (i : Invocation) (tree : FileTree),
          readInvocation c words = .invocation i → i.action = some (.reindent o) →
          Logging.openFile c w.tree w.folder = .ok tree →
          Logging.levelFault? c i.debug w.hasLog = none →
          readInput { w with tree } o.file = .ok text → w.refusal? result = none →
            run c w words = ⟨.returned 0, result, [], tree, []⟩ := by
  refine ⟨fun block indent size positive => ?_, fun block indent alike => ?_,
    fun c o text strict alike => ?_⟩
  · obtain ⟨expanded, spaces, done⟩ := reindent_expandTabs positive block indent
    exact ⟨expanded, _, spaces, Block.tab_not_mem_expandTabs spaces, done⟩
  · exact ⟨_, Block.reindent_of_isPaddedAlike alike indent true⟩
  · obtain ⟨expanded, tabless, done⟩ := exists_spaced alike strict
    refine ⟨expanded, _, tabless, strict ▸ done,
      fun w read taken => runReindent_of_ok read tabless done taken,
      fun w words i tree invoked chosen opened leveled read taken => ?_⟩
    rw [run_of_opened invoked chosen opened leveled]
    exact runReindent_of_ok read tabless done taken

/-! A text with a tab before one line and spaces before another, and between them a line that is
blank without a space or a tab. -/

def raggedText : Text :=
  "\ta\n\u00a0\n  b\n".toList

def raggedWorld : World :=
  .fresh { entries := [(["ragged".toList], .file (Utf8.encode raggedText))] } [] [] []

def raggedWords : List Text :=
  ["reindent", "ragged", "--tabs", "--strict", "--indent", "> "].map String.toList

def raggedOptions : ReindentOptions where
  file := "ragged".toList
  indent := .word "> ".toList
  tabs := true
  strict := true

theorem strict_never_refused_ragged :
    Block.reindent "> ".toList "\ta\n\n\t\tb\n".toList true = .ok "> a\n\n> \tb\n".toList ∧
    run .default raggedWorld raggedWords =
      ⟨.returned 0, ">   a\n\u00a0\n> b\n".toList, [], raggedWorld.tree, []⟩ := by
  have tabbed : Block.IsPaddedAlike "\ta\n\n\t\tb\n".toList := by
    have all : ∀ line ∈ Block.inkedLines "\ta\n\n\t\tb\n".toList,
        (Block.leadingPad line).all (· == '\t') := by decide
    refine .inr fun line member c inside => ?_
    exact beq_iff_eq.1 (List.all_eq_true.1 (all line member) c inside)
  have invoked : readInvocation .default raggedWords =
      .invocation ⟨false, some (.reindent raggedOptions)⟩ := by decide +kernel
  have leveled : Logging.levelFault? .default false false = none := by decide +kernel
  have read : readInput raggedWorld raggedOptions.file = .ok raggedText := by decide +kernel
  obtain ⟨expanded, result, tabless, done, _, runs⟩ :=
    strict_never_refused.2.2 .default raggedOptions raggedText rfl (.inl ⟨rfl, by decide⟩)
  obtain rfl : "    a\n\u00a0\n  b\n".toList = expanded := by
    refine Except.ok.inj (Eq.trans ?_ tabless)
    rfl
  obtain rfl : ">   a\n\u00a0\n> b\n".toList = result := by
    refine Except.ok.inj (Eq.trans ?_ done)
    rfl
  obtain ⟨kept, strictly⟩ := strict_never_refused.2.1 _ "> ".toList tabbed
  obtain rfl : "> a\n\n> \tb\n".toList = kept := by
    refine Except.ok.inj (Eq.trans ?_ strictly)
    rfl
  exact ⟨strictly, runs raggedWorld raggedWords _ _ invoked rfl rfl leveled read rfl⟩

end Stencil.Command
