import Stencil.Proofs.Block.Patterns
import Stencil.Service.Api

/-!
Trimming the edges of a text, and the endpoint for it.  Every text can be trimmed, so whatever
framework calls the endpoint, it has a result to answer and no refusal.
-/
namespace Stencil.Service

open Block Text

/-! ## Trimming -/

theorem normalize_of_cuts
    {e : Edges}
    {t : Text}
    (cuts : e.Cuts t)
    (head tail : EdgeMode) :
    normalize t head tail = .ok (single "text" (e.settled head tail)) := by
  rw [normalize, trySettleEdges_of_cuts cuts]

/-- Every text is cut at its edges in one way, and trimming takes the edges off and puts back what
the modes ask for.  The body begins with no blank line and ends with no space, tab or line feed.
The endpoint answers with the trimmed text, and no request that calls it has the status 400. -/
theorem trimmed_exactly (t : Text) (head tail : EdgeMode) :
    ∃ e : Edges,
      e.Cuts t ∧ (∀ other : Edges, other.Cuts t → other = e) ∧
      trySettleEdges t head tail = .ok (e.settled head tail) ∧
      (∀ line, line <+: e.body → BlankLines line → line = []) ∧
      (∀ c ∈ e.body.getLast?, isPad c = false ∧ c ≠ '\n') ∧
      normalize t head tail = .ok (single "text" (e.settled head tail)) ∧
      ∀ (Request Response : Type) (f : Framework Request Response) (c : Config) (r : Request),
        f.read r = .ok (.normalize t head tail) →
          f.serve c r = f.reply (single "text" (e.settled head tail)) ∧
            f.status (f.serve c r) ≠ 400 := by
  have cuts := cuts_edges t
  have normalized := normalize_of_cuts cuts head tail
  refine ⟨edges t, cuts, fun other found => found.unique cuts, trySettleEdges_of_cuts cuts head tail,
    cuts.inked, ?_, normalized, ?_⟩
  · intro c last
    have firm := firm_edges t c last
    exact ⟨Bool.eq_false_iff.2 fun pad => firm (.inl pad), fun feed => firm (.inr (.inl feed))⟩
  · intro Request Response f c r asked
    have served := Framework.serve_of_ok (c := c) asked normalized
    refine ⟨served, ?_⟩
    rw [served, f.status_reply]
    decide

/-! ## A request -/

/-- A request for an endpoint is read by its body. -/
theorem read_post
    {path : Text}
    {target : Target}
    {task : Task}
    (located : Target.read path = .ok target)
    (found : target.route? = some (.task task))
    (body : Body) :
    framework.read ⟨"POST".toList, path, body⟩ = body.read task := by
  have capitals : Text.upper "POST".toList = "POST".toList := by rfl
  have called : readFor "POST".toList target body = body.read task := by
    rw [readFor, found]
    exact if_pos (List.contains_iff_mem.2 (List.mem_singleton.2 rfl))
  show Request.read _ = _
  rw [Request.read, located]
  simp only [capitals, called]
  exact if_neg (by decide)

theorem read_of_check
    {task : Task}
    {members : Table Json}
    {call : Call}
    (checked : task.check members = .ok call) :
    (Body.value (.object members)).read task = .ok call := by
  show (task.check members).mapError Reply.ofProblems = _
  rw [checked]
  rfl

/-- A carriage return stays in a body and goes with a line end. -/
theorem trimmed_exactly_mixed :
    let body := object [
      ("text", .text " \r\n\ta b\r \t\r\n ".toList), ("tail", .text "force".toList)]
    answer .default ⟨"POST".toList, "/api/text/normalize".toList, .value body⟩ =
      .ok (.reply 200 (single "text" "\n\ta b\r\n".toList)) := by
  intro body
  have path : Target.route? ⟨[], [], "/api/text/normalize".toList⟩ = some (.task .normalize) := by
    decide +kernel
  have asked : framework.read ⟨"POST".toList, "/api/text/normalize".toList, .value body⟩ =
      .ok (.normalize " \r\n\ta b\r \t\r\n ".toList .preserve .force) :=
    (read_post (by rfl) path _).trans (by rfl)
  obtain ⟨e, cuts, _, _, _, _, _, served⟩ :=
    trimmed_exactly " \r\n\ta b\r \t\r\n ".toList .preserve .force
  have parts : e = ⟨" \r\n".toList, "\ta b\r".toList, " \t\r\n ".toList⟩ :=
    cuts.eq_edges.trans (by decide +kernel)
  obtain ⟨answered, _⟩ := served _ _ framework .default _ asked
  rw [parts] at answered
  exact answered

end Stencil.Service
