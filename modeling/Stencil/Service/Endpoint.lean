import Stencil.Block.Grammar
import Stencil.Config
import Stencil.Expansion.Report
import Stencil.Service.Json

/-!
The endpoints of the HTTP service: listing and expanding placeholders, and treating the edges and the
indent of a text.  Between requests and endpoints stands a web framework.  It reads a request as a
call of an endpoint, or answers it without one, and it writes what the endpoint answers.
-/
namespace Stencil.Service

open Placeholder

def textArray (texts : List Text) : Json :=
  .array (texts.map Json.text)

def object (members : List (String × Json)) : Json :=
  .object (members.map fun m => (m.1.toList, m.2))

/-- A text under a name. -/
def single (name : String) (t : Text) : Json :=
  object [(name, .text t)]

/-- What an endpoint answers in the place of a result. -/
structure Refusal where
  status : Nat
  detail : Text
  deriving DecidableEq, Repr

/-! ## Endpoints -/

def health (c : Config) : Json :=
  object [
    ("status", .text "ok".toList),
    ("service", .text "expandkit".toList),
    ("config", object [
      ("settings_file_name", .text c.settingsFileName),
      ("settings_section", .text c.settingsSection),
      ("release_notes_file_name", .text c.releaseNotesFileName),
      ("ignore_case", .flag c.ignoreCase)])]

def occurrenceJson (o : Occurrence) : Json :=
  object [
    ("name", .text o.name),
    ("syntax", .text (wrap o.name)),
    ("start_pos", .integer o.start),
    ("end_pos", .integer o.stop)]

def list (template : Text) : Json :=
  object [
    ("macros", .array ((occurrences template).map occurrenceJson)),
    ("names", textArray (namesIn template))]

def expand (template : Text) (values : Table (Option Text)) : Json :=
  let report := (Expansion.report (Resolver.ofOptions values) template ()).1
  object [
    ("expanded", .text report.expanded),
    ("resolved", textArray report.resolved),
    ("unresolved", textArray report.unresolved),
    ("complete", .flag report.complete)]

def normalize (t : Text) (head tail : Block.EdgeMode) : Except Refusal Json :=
  match Block.trySettleEdges t head tail with
  | .ok t => .ok (single "text" t)
  | .error e => .error ⟨400, e.message⟩

def reindent (t indent : Text) (strict : Bool) : Except Refusal Json :=
  match Block.reindent indent t strict with
  | .ok t => .ok (single "text" t)
  | .error e => .error ⟨400, e.message⟩

/-- A call of an endpoint. -/
inductive Call
  | health
  | list (template : Text)
  | expand (template : Text) (values : Table (Option Text))
  | normalize (t : Text) (head tail : Block.EdgeMode)
  | reindent (t indent : Text) (strict : Bool)
  deriving DecidableEq, Repr

def Call.answer (c : Config) : Call → Except Refusal Json
  | health => .ok (Service.health c)
  | list template => .ok (Service.list template)
  | expand template values => .ok (Service.expand template values)
  | normalize t head tail => Service.normalize t head tail
  | reindent t indent strict => Service.reindent t indent strict

/-! ## Frameworks -/

/-- A web framework, as far as endpoints meet it. -/
structure Framework (Request Response : Type) where
  /-- The call that a request is, or what is answered to it without a call. -/
  read : Request → Except Response Call
  reply : Json → Response
  refuse : Refusal → Response
  status : Response → Nat
  /-- A result is answered with the status 200. -/
  status_reply (v : Json) : status (reply v) = 200
  /-- A refusal is answered with its own status. -/
  status_refuse (e : Refusal) : status (refuse e) = e.status

namespace Framework

variable {Request Response : Type}

def serve (f : Framework Request Response) (c : Config) (r : Request) : Response :=
  match f.read r with
  | .error response => response
  | .ok call =>
    match call.answer c with
    | .ok v => f.reply v
    | .error e => f.refuse e

section Serve

variable {f : Framework Request Response} {c : Config} {r : Request} {call : Call}

theorem serve_of_ok
    {v : Json}
    (asked : f.read r = .ok call)
    (answered : call.answer c = .ok v) :
    f.serve c r = f.reply v := by
  rw [serve, asked]
  simp only [answered]

theorem serve_of_error
    {e : Refusal}
    (asked : f.read r = .ok call)
    (answered : call.answer c = .error e) :
    f.serve c r = f.refuse e := by
  rw [serve, asked]
  simp only [answered]

end Serve

end Framework

end Stencil.Service
