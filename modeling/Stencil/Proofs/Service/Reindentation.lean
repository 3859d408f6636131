import Stencil.Proofs.Block.CommonIndent
import Stencil.Proofs.Service.Normalization

/-!
Another indent for a block, and the endpoint for it.  Only the first inked line that does not start
with the common indent can have a strict request refused, and all others are answered with a block
of the same shape.
-/
namespace Stencil.Service

open Block Text

/-! ## The endpoint -/

/-- A line that is astray, with the message about it. -/
def astray (line : Text) : Refusal :=
  ⟨400, "Line is not properly indented: ".toList ++ quoted line⟩

theorem reindent_of_ok
    {block indent result : Text}
    {strict : Bool}
    (done : Block.reindent indent block strict = .ok result) :
    reindent block indent strict = .ok (single "text" result) := by
  rw [reindent, done]

theorem reindent_of_misindented
    {block indent line : Text}
    {strict : Bool}
    (refused : Block.reindent indent block strict = .error (.misindented line)) :
    reindent block indent strict = .error (astray line) := by
  rw [reindent, refused]
  rfl

/-- A request that calls the endpoint has the status 400 just when the block is refused. -/
theorem status_reindent_iff
    {Request Response : Type}
    {f : Framework Request Response}
    {r : Request}
    {block indent : Text}
    {strict : Bool}
    (asked : f.read r = .ok (.reindent block indent strict))
    (c : Config) :
    f.status (f.serve c r) = 400 ↔ ∃ e, Block.reindent indent block strict = .error e := by
  cases done : Block.reindent indent block strict with
  | ok result =>
      rw [Framework.serve_of_ok asked (reindent_of_ok done), f.status_reply]
      simp
  | error e =>
      have answered : reindent block indent strict = .error ⟨400, e.message⟩ := by
        rw [reindent, done]
      rw [Framework.serve_of_error asked answered, f.status_refuse]
      simp

/-! ## Shapes -/

/-- Whatever starts with the common indent goes on in some way after it. -/
theorem exists_rests
    {indent : Text}
    {inked : List Text}
    (shared : ∀ line ∈ inked, indent <+: line) :
    ∃ rests : List Text, inked = rests.map (indent ++ ·) := by
  refine ⟨inked.map (List.drop indent.length), ?_⟩
  rw [List.map_map]
  refine (List.map_id inked).symm.trans (List.map_congr_left fun line member => ?_)
  obtain ⟨rest, rfl⟩ := shared line member
  simp

/-- A block takes any indent in the place of its common one.  A strict request is refused exactly
when an inked line does not start with the common indent, and the first such line is named; otherwise
it makes no difference that the request is strict, and every inked line keeps what stands after the
common indent, if the new one holds no line feed.  An indent of spaces and tabs is then the common
one.  The endpoint refuses what is refused, with the status 400, and nothing else. -/
theorem reindented_in_shape (block indent : Text) :
    ∃ result, Block.reindent indent block false = .ok result ∧
      ((∃ e, Block.reindent indent block true = .error e) ↔
        ∃ line ∈ inkedLines block, ¬ commonIndent block <+: line) ∧
      (∀ e, Block.reindent indent block true = .error e ↔
        ∃ line, IsFirstAstray (commonIndent block) block line ∧ e = .misindented line) ∧
      ((∀ line ∈ inkedLines block, commonIndent block <+: line) →
        Block.reindent indent block true = .ok result ∧
          ('\n' ∉ indent →
            ∃ rests : List Text, inkedLines block = rests.map (commonIndent block ++ ·) ∧
              inkedLines result = rests.map (indent ++ ·))) ∧
      (inkedLines block ≠ [] → (∀ c ∈ indent, isPad c) → commonIndent result = indent) ∧
      ∀ strict,
        (∀ line, Block.reindent indent block strict = .error (.misindented line) →
          reindent block indent strict = .error
            ⟨400, "Line is not properly indented: ".toList ++ quoted line⟩) ∧
        (∀ t, Block.reindent indent block strict = .ok t →
          reindent block indent strict = .ok (single "text" t)) ∧
        ∀ (Request Response : Type) (f : Framework Request Response) (c : Config) (r : Request),
          f.read r = .ok (.reindent block indent strict) →
            (f.status (f.serve c r) = 400 ↔ ∃ e, Block.reindent indent block strict = .error e) ∧
            (∀ line, Block.reindent indent block strict = .error (.misindented line) →
              f.serve c r = f.refuse (astray line)) ∧
            ∀ t, Block.reindent indent block strict = .ok t →
              f.serve c r = f.reply (single "text" t) := by
  have refusals : (∃ e, Block.reindent indent block true = .error e) ↔
      ∃ line ∈ inkedLines block, ¬ commonIndent block <+: line := by
    rw [exists_reindent_error_iff]
    exact and_iff_right rfl
  refine ⟨reindented indent block, reindent_lenient indent block, refusals,
    fun e => reindent_strict_error_iff, fun shared => ⟨?_, fun clean => ?_⟩,
    fun some_ink pads => commonIndent_reindented pads some_ink,
    fun strict => ⟨fun _ => reindent_of_misindented, fun _ => reindent_of_ok, ?_⟩⟩
  · exact reindent_strict_ok_iff.2 ⟨shared, rfl⟩
  · obtain ⟨rests, parts⟩ := exists_rests shared
    exact ⟨rests, parts, inkedLines_reindented clean parts⟩
  · intro Request Response f c r asked
    refine ⟨status_reindent_iff asked c, fun line refused => ?_, fun t done => ?_⟩
    · exact Framework.serve_of_error asked (reindent_of_misindented refused)
    · exact Framework.serve_of_ok asked (reindent_of_ok done)

/-- A tab is the shortest padding, and the line with two spaces does not start with it. -/
theorem reindented_in_shape_mixed :
    let body := object [("text", .text "\ta\n\n  b\n".toList), ("indent", .text "\t\t".toList),
      ("strict", .flag true)]
    Block.reindent "\t\t".toList "\ta\n\n  b\n".toList false = .ok "\t\ta\n\n\t\t  b\n".toList ∧
    commonIndent "\t\ta\n\n\t\t  b\n".toList = "\t\t".toList ∧
    answer .default ⟨"POST".toList, "/api/text/reindent".toList, .value body⟩ =
      .ok (.reply 400
        (single "detail" "Line is not properly indented: '  b\\n'".toList)) := by
  intro body
  have path : Target.route? ⟨[], [], "/api/text/reindent".toList⟩ = some (.task .reindent) := by
    decide +kernel
  have asked : framework.read ⟨"POST".toList, "/api/text/reindent".toList, .value body⟩ =
      .ok (.reindent "\ta\n\n  b\n".toList "\t\t".toList true) :=
    (read_post (by rfl) path _).trans (by rfl)
  obtain ⟨result, lenient, _, _, _, common, endpoint⟩ :=
    reindented_in_shape "\ta\n\n  b\n".toList "\t\t".toList
  have done : Block.reindent "\t\t".toList "\ta\n\n  b\n".toList false =
      .ok "\t\ta\n\n\t\t  b\n".toList := by rfl
  obtain rfl := Except.ok.inj (lenient.symm.trans done)
  obtain ⟨_, _, served⟩ := endpoint true
  obtain ⟨_, refused, _⟩ := served _ _ framework .default _ asked
  have answered := refused "  b\n".toList (by rfl)
  exact ⟨done, common (by decide) (List.all_eq_true.1 (by decide)), answered.trans (by rfl)⟩

end Stencil.Service
