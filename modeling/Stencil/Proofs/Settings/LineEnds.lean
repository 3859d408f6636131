import Stencil.Proofs.Settings.Reading
import Stencil.Proofs.Text.Ink
import Stencil.Proofs.Text.Utf8

/-!
Settings on disk and in memory.  A text in memory is cut at line feeds, a file on disk at every line
end.  Both are read alike when no line falls apart, and only then do they say the same.
-/
namespace Stencil.Settings

open Text

variable {line a b t : Text}

/-! ## What lines say -/

namespace Line

theorem told_append (first second : List Text) :
    told (first ++ second) = told first ++ told second := by
  rw [told, List.map_append, List.filter_append, ← told, ← told]

theorem told_cons (line : Text) (lines : List Text) :
    told (line :: lines) = told [line] ++ told lines :=
  told_append [line] lines

theorem told_eq_flatMap (lines : List Text) :
    told lines = lines.flatMap fun line => told [line] := by
  induction lines with
  | nil => rfl
  | cons line lines ih => rw [told_cons, ih, List.flatMap_cons]

theorem told_congr
    {other : Text}
    (same : plain line = plain other) :
    told [line] = told [other] := by
  rw [told, List.map_singleton, same, ← List.map_singleton, ← told]

theorem told_eq_nil {lines : List Text} :
    told lines = [] ↔ ∀ line ∈ lines, plain line = .remark := by
  simp [told]

theorem told_singleton_eq_nil : told [line] = [] ↔ plain line = .remark := by
  rw [told_eq_nil, List.forall_mem_singleton]

end Line

/-! ## Cutting at every line end -/

open Line

theorem told_splitLines (t : Text) : told (splitLines t) = told (pieces t) := by
  induction t using lineEndInduction with
  | last a inLine =>
      rw [pieces_of_apart inLine]
      by_cases empty : a = []
      · subst empty
        rfl
      · rw [splitLines_of_apart inLine empty]
  | line a c rest inLine ends ih =>
      rw [pieces_append ends, pieces_of_apart inLine, List.singleton_append,
        told_cons a (pieces rest), ← ih]
      rcases splitLines_cons_lineEnd ends rest with next | ⟨after, rfl, next⟩
      · rw [splitLines_append_of_nil inLine next, told_cons]
      · rw [splitLines_append_of_nil inLine next, told_cons, splitLines_feed, told_cons []]
        rfl

theorem told_pieces_append {c : Char} (ends : isLineEnd c) (a t : Text) :
    told (pieces (a ++ c :: t)) = told (pieces a) ++ told (pieces t) := by
  rw [pieces_append ends, told_append]

-- The induction takes one character after the other, so it carries the piece that has begun.
theorem told_pieces_unifyLineEnds
    (t a : Text)
    (inLine : ∀ c ∈ a, isLineEnd c = false) :
    told (pieces (a ++ unifyLineEnds t)) = told (pieces (a ++ t)) := by
  fun_induction unifyLineEnds t generalizing a with
  | case1 => rfl
  | case2 cs ih =>
      have next : told (pieces (unifyLineEnds cs)) = told (pieces cs) := ih [] (by simp)
      have feed : told (pieces ('\n' :: cs)) = told (pieces cs) :=
        told_pieces_append (by decide) [] cs
      rw [told_pieces_append (by decide), told_pieces_append (by decide), next, feed]
  | case3 c cs _ ih =>
      by_cases ends : isLineEnd c
      · have next : told (pieces (unifyLineEnds cs)) = told (pieces cs) := ih [] (by simp)
        have ends' : isLineEnd (if c = '\r' then '\n' else c) := by
          split
          · decide
          · exact ends
        rw [told_pieces_append ends', told_pieces_append ends, next]
      · have other : c ≠ '\r' := by
          rintro rfl
          exact ends (by decide)
        have longer : ∀ d ∈ a ++ [c], isLineEnd d = false := by
          rw [List.forall_mem_append, List.forall_mem_singleton]
          exact ⟨inLine, Bool.eq_false_iff.2 ends⟩
        rw [if_neg other, List.append_cons, ih _ longer, ← List.append_cons]

theorem told_pieces_lines (t : Text) :
    told (pieces t) = (split '\n' t).flatMap fun line => told (pieces line) := by
  induction t using Block.lineInduction with
  | last a clean => rw [split_of_not_mem clean, List.flatMap_singleton]
  | line a rest clean ih =>
      rw [pieces_append (by decide), told_append, ih, split_append clean, List.flatMap_cons]

/-! ## Lines that stay whole -/

theorem told_pieces_of_blank_append
    (blank : ∀ c ∈ a, isBlank c)
    (t : Text) :
    told (pieces (a ++ t)) = told (pieces t) := by
  induction a with
  | nil => rfl
  | cons c a ih =>
      rw [List.forall_mem_cons] at blank
      by_cases ends : isLineEnd c
      · exact (told_pieces_append ends [] (a ++ t)).trans (ih blank.2)
      · have pushed : pieces (c :: (a ++ t)) = (pieces (a ++ t)).modifyHead (c :: ·) := by
          rw [pieces, List.splitOnP_cons_eq_if_modifyHead, if_neg ends, pieces]
        rw [List.cons_append, pushed, ← ih blank.2]
        cases pieces (a ++ t) with
        | nil => rfl
        | cons piece others =>
            have same : plain (c :: piece) = plain piece :=
              plain_append_left (List.forall_mem_singleton.2 blank.1) piece
            rw [List.modifyHead_cons, told_cons, told_congr same, ← told_cons]

theorem told_pieces_append_blank
    (inLine : ∀ c ∈ t, isLineEnd c = false)
    (blank : ∀ c ∈ b, isBlank c) :
    told (pieces (t ++ b)) = told [t] := by
  induction b using lineEndInduction with
  | last b apart =>
      rw [pieces_of_apart (List.forall_mem_append.2 ⟨inLine, apart⟩)]
      exact told_congr (plain_append_right blank t)
  | line b c rest apart ends _ =>
      rw [List.forall_mem_append, List.forall_mem_cons] at blank
      have nothing : told (pieces rest) = [] := by
        rw [← List.append_nil rest, told_pieces_of_blank_append blank.2.2]
        rfl
      rw [← List.append_assoc, told_pieces_append ends, nothing, List.append_nil,
        pieces_of_apart (List.forall_mem_append.2 ⟨inLine, apart⟩)]
      exact told_congr (plain_append_right blank.1 t)

theorem told_pieces_of_trim (inside : ∀ c ∈ trim line, isLineEnd c = false) :
    told (pieces line) = told [line] := by
  obtain ⟨a, b, parts, left, right⟩ := exists_trim line
  have same : plain (trim line) = plain line := plain_congr (trim_trim line)
  conv_lhs => rw [parts]
  rw [List.append_assoc, told_pieces_of_blank_append left, told_pieces_append_blank inside right]
  exact told_congr same

/-! ## Ink -/

/-- The ink of every line that says this. -/
def Line.ink : Line → Nat
  | .remark => 0
  | .header name => Text.ink name + 2
  | .entry key none => Text.ink key
  | .entry key (some value) => Text.ink key + Text.ink value + 1

theorem ink_plain (said : plain line ≠ .remark) : (plain line).ink = ink line := by
  rw [← ink_trim line]
  rcases plain_cases line with remark | ⟨name, parts, form⟩ | ⟨key, value, parts, form⟩ | form
  · exact absurd remark said
  · rw [form, parts, Line.ink, ink_cons (by decide), ink_append, ink_trim]
    rfl
  · rw [form, parts, Line.ink, ink_append, ink_cons (by decide), ink_trim, ink_trim]
    rfl
  · rw [form, Line.ink]

/-! ## What lines say when they are cut -/

theorem plain_eq_remark_of_pieces
    (remarks : ∀ piece ∈ pieces line, plain piece = .remark) :
    plain line = .remark := by
  induction line using lineEndInduction with
  | last a inLine =>
      rw [pieces_of_apart inLine, List.forall_mem_singleton] at remarks
      exact remarks
  | line a c rest inLine ends ih =>
      rw [pieces_append ends, pieces_of_apart inLine, List.singleton_append,
        List.forall_mem_cons] at remarks
      obtain ⟨first, others⟩ := remarks
      -- A blank first piece does not count; any other begins the remark that the line is.
      by_cases empty : trim a = []
      · have blank : ∀ d ∈ a ++ [c], isBlank d := by
          rw [List.forall_mem_append, List.forall_mem_singleton]
          exact ⟨trim_eq_nil_iff.1 empty, isBlank_of_isLineEnd ends⟩
        rw [List.append_cons, plain_append_left blank, ih others]
      · rw [plain_eq_remark_iff] at first ⊢
        rw [head?_trim_append empty]
        exact .inr (first.resolve_left empty)

theorem length_told_le (line : Text) : (told [line]).length ≤ (told (pieces line)).length := by
  by_cases remark : plain line = .remark
  · rw [told_singleton_eq_nil.2 remark]
    exact Nat.zero_le _
  · have one : (told [line]).length ≤ 1 := List.length_filter_le _ _
    have some_told : told (pieces line) ≠ [] :=
      fun nothing => remark (plain_eq_remark_of_pieces (told_eq_nil.1 nothing))
    have positive := List.length_pos_iff.2 some_told
    omega

theorem staysWhole_iff :
    staysWhole line ↔ (∀ c ∈ trim line, isLineEnd c = false) ∨
      ∀ piece ∈ pieces line, plain piece = .remark := by
  simp [staysWhole]

theorem told_pieces_eq_iff (line : Text) : told (pieces line) = told [line] ↔ staysWhole line := by
  rw [staysWhole_iff]
  constructor
  · intro same
    by_cases remark : plain line = .remark
    · rw [told_singleton_eq_nil.2 remark] at same
      exact .inr (told_eq_nil.1 same)
    · -- One of the pieces says what the line says, so it has as much ink as the line.
      have said : plain line ∈ told (pieces line) := by
        rw [same]
        simp [told, remark]
      obtain ⟨piece, member, form⟩ := List.mem_map.1 (List.mem_filter.1 said).1
      have inkSame : ink piece = ink line := by
        rw [← ink_plain remark, ← form, ink_plain (form.symm ▸ remark)]
      exact .inl (inLine_of_ink_eq member inkSame)
  · rintro (inside | remarks)
    · exact told_pieces_of_trim inside
    · rw [told_eq_nil.2 remarks, told_singleton_eq_nil.2 (plain_eq_remark_of_pieces remarks)]

/-! ## Whole texts -/

/-- Concatenations of which one has the shorter parts are the same only part by part. -/
theorem flatMap_eq_iff
    {α β : Type}
    {f g : α → List β}
    (shorter : ∀ x, (f x).length ≤ (g x).length)
    (l : List α) :
    l.flatMap g = l.flatMap f ↔ ∀ x ∈ l, g x = f x := by
  have total : ∀ l : List α, (l.flatMap f).length ≤ (l.flatMap g).length := by
    intro l
    induction l with
    | nil => rfl
    | cons x l ih =>
        have first := shorter x
        rw [List.flatMap_cons, List.flatMap_cons, List.length_append, List.length_append]
        omega
  induction l with
  | nil => simp
  | cons x l ih =>
      rw [List.flatMap_cons, List.flatMap_cons, List.forall_mem_cons]
      constructor
      · intro same
        have lengths := congrArg List.length same
        have first := shorter x
        have rest := total l
        rw [List.length_append, List.length_append] at lengths
        obtain ⟨sameFirst, sameRest⟩ := List.append_inj same (by omega)
        exact ⟨sameFirst, ih.1 sameRest⟩
      · rintro ⟨sameFirst, each⟩
        rw [sameFirst, ih.2 each]

theorem told_alike_iff (content : Text) :
    told (splitLines (unifyLineEnds content)) = told (split '\n' content) ↔
      ∀ line ∈ split '\n' content, staysWhole line := by
  have disk : told (splitLines (unifyLineEnds content)) =
      (split '\n' content).flatMap fun line => told (pieces line) := by
    rw [told_splitLines, ← told_pieces_lines]
    exact told_pieces_unifyLineEnds content [] (by simp)
  rw [disk, told_eq_flatMap (split '\n' content), flatMap_eq_iff length_told_le]
  simp only [told_pieces_eq_iff]

theorem History.ofLinesIn_filter (current : Text) (said : List Line) :
    ofLinesIn current (said.filter (· != .remark)) = ofLinesIn current said := by
  induction said generalizing current with
  | nil => rfl
  | cons line said ih =>
      cases line with
      | remark => exact ih current
      | header name => exact congrArg (.opened name :: ·) (ih name)
      | entry key value => exact congrArg (.assigned current key value :: ·) (ih current)

theorem History.ofLines_told (lines : List Text) :
    ofLines (told lines) = ofLines (lines.map plain) := by
  rw [ofLines, told, ofLinesIn_filter, ofLines]

/-- A text says on disk what it says in memory exactly when all its lines stay whole, and then the
same file is read. -/
theorem disk_alike_iff_whole
    {tree : FileTree}
    {folder : Location}
    {p : Path}
    {content : Text}
    (name : Text)
    (held : tree.read folder p = .ok (Utf8.encode content)) :
    let disk := told (splitLines (unifyLineEnds content))
    let memory := told (split '\n' content)
    tree.loadSettings folder p name = .ok (History.ofLines disk).file ∧
      File.ofText content = .ok (History.ofLines memory).file ∧
      (disk = memory ↔ ∀ line ∈ split '\n' content, staysWhole line) ∧
      ((∀ line ∈ split '\n' content, staysWhole line) →
        ∃ f, tree.loadSettings folder p name = .ok f ∧ File.ofText content = .ok f) := by
  intro disk memory
  have decoded : Utf8.read (Utf8.encode content) = .ok (unifyLineEnds content) := by
    rw [Utf8.read, Utf8.decode_encode]
    rfl
  have loaded : tree.loadSettings folder p name = .ok (History.ofLines disk).file := by
    rw [FileTree.loadSettings_of_read name held decoded, History.ofLines_told]
  have read : File.ofText content = .ok (History.ofLines memory).file := by
    rw [File.ofText_eq_file, History.ofLines_told]
  refine ⟨loaded, read, told_alike_iff content, fun whole => ⟨_, loaded, ?_⟩⟩
  have same : disk = memory := (told_alike_iff content).2 whole
  rw [read, same]

theorem disk_alike_iff_whole_edges :
    let content := "[s]\r\n\u000ckey = v\u0085\r\n# a\u2028; b\n\u000bbare\r".toList
    let tree : FileTree := { entries := [(["f".toList], .file (Utf8.encode content))] }
    let p := Path.ofText "f".toList
    let f : File := ⟨[([], ⟨[], []⟩), ("s".toList, ⟨"s".toList,
      [("key".toList, some "v".toList), ("bare".toList, none)]⟩)]⟩
    tree.read [] p = .ok (Utf8.encode content) ∧
      (∀ line ∈ split '\n' content, staysWhole line) ∧
      tree.loadSettings [] p [] = .ok f ∧ File.ofText content = .ok f := by
  intro content tree p f
  have held : tree.read [] p = .ok (Utf8.encode content) := by decide +kernel
  have whole : ∀ line ∈ split '\n' content, staysWhole line := by decide +kernel
  obtain ⟨_, memory, _, alike⟩ := disk_alike_iff_whole [] held
  obtain ⟨g, loaded, read⟩ := alike whole
  have same : File.ofText content = .ok f := by
    rw [memory]
    decide +kernel
  have found : g = f := Except.ok.inj (read.symm.trans same)
  exact ⟨held, whole, found ▸ loaded, same⟩

/-- A form feed inside a value: in memory it belongs to the value, on disk the value ends there and
a bare key follows. -/
theorem disk_cuts_value_at_formFeed :
    let content := "k = a\u000cb".toList
    let tree : FileTree := { entries := [(["f".toList], .file (Utf8.encode content))] }
    let p := Path.ofText "f".toList
    tree.read [] p = .ok (Utf8.encode content) ∧
      tree.loadSettings [] p [] =
        .ok ⟨[([], ⟨[], [("k".toList, some "a".toList), ("b".toList, none)]⟩)]⟩ ∧
      File.ofText content = .ok ⟨[([], ⟨[], [("k".toList, some "a\u000cb".toList)]⟩)]⟩ ∧
      ¬ ∃ f, tree.loadSettings [] p [] = .ok f ∧ File.ofText content = .ok f := by
  intro content tree p
  have held : tree.read [] p = .ok (Utf8.encode content) := by decide +kernel
  have decoded : Utf8.read (Utf8.encode content) = .ok content := by decide +kernel
  have disk : tree.loadSettings [] p [] =
      .ok ⟨[([], ⟨[], [("k".toList, some "a".toList), ("b".toList, none)]⟩)]⟩ := by
    rw [FileTree.loadSettings_of_read [] held decoded]
    decide +kernel
  have memory : File.ofText content =
      .ok ⟨[([], ⟨[], [("k".toList, some "a\u000cb".toList)]⟩)]⟩ := by
    rw [File.ofText_eq_file]
    decide +kernel
  refine ⟨held, disk, memory, ?_⟩
  rintro ⟨f, loaded, read⟩
  have same := (Except.ok.inj (loaded.symm.trans disk)).symm.trans
    (Except.ok.inj (read.symm.trans memory))
  exact absurd same (by decide)

end Stencil.Settings
