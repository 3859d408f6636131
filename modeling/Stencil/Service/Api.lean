import Stencil.Service.Endpoint
import Stencil.Service.JsonBytes
import Stencil.Service.Target
import Stencil.Service.Validation
import Stencil.Text.Case

/-!
A framework for the endpoints.  A request is read by the route of its path, if the method is one of
that route, and its body has to be JSON of the right form.
-/
namespace Stencil.Service

inductive Body
  | absent
  /-- Bytes that are not read as JSON. -/
  | faulty (fault : Json.BytesFault)
  | value (v : Json)

/-- The body in bytes, of which so many arrays and objects may be open at a time. -/
def Body.ofBytes (depthLimit : Nat) (bytes : List UInt8) : Body :=
  if bytes.isEmpty then absent
  else match Json.ofBytes depthLimit bytes with
    | .ok v => value v
    | .error fault => faulty fault

structure Request where
  /-- The method, in letters of any case. -/
  method : Text
  target : Text
  body : Body

inductive Response
  | reply (status : Nat) (body : Json)
  | unprocessable (problems : List Problem)
  /-- A page about the service, to be shown by a browser. -/
  | page
  | bare (status : Nat)

namespace Response

def status : Response → Nat
  | reply status _ | bare status => status
  | unprocessable _ => 422
  | page => 200

def detail (status : Nat) (t : Text) : Response :=
  reply status (single "detail" t)

end Response

inductive Failure
  | target (e : TargetError)
  /-- A problem would have to show a number that is not finite, and an answer cannot hold one. -/
  | notFinite
  deriving DecidableEq, Repr

def Failure.message : Failure → Text
  | target e => e.message
  | notFinite => "Out of range float values are not JSON compliant".toList

/-- What is answered in the end, if anything can be. -/
abbrev Reply := Except Failure Response

/-! ## Bodies -/

/-- Problems are answered with the values that show them. -/
def Reply.ofProblems (problems : List Problem) : Reply :=
  if problems.all fun p => p.input.isFinite then .ok (.unprocessable problems)
  else .error .notFinite

inductive Task
  | list
  | expand
  | normalize
  | reindent
  deriving DecidableEq, Repr

/-- The call that the members of a body make up. -/
def Task.check (task : Task) (body : Table Json) : Checked Call :=
  match task with
  | list => (required text body "template").map Call.list
  | expand =>
    ((required text body "template").and (optional textTable [] body "values")).map
      fun v => .expand v.1 v.2
  | normalize =>
    ((required text body "text").and
      ((optional edgeMode .preserve body "head").and
        (optional edgeMode .preserve body "tail"))).map
      fun v => .normalize v.1 v.2.1 v.2.2
  | reindent =>
    ((required text body "text").and
      ((optional text [] body "indent").and (optional flag false body "strict"))).map
      fun v => .reindent v.1 v.2.1 v.2.2

/-- The members of a value that has to be an object. -/
def membersOf : Json → Checked (Table Json)
  | .null => .problem .missing bodyLocation .null
  | .object members => .ok members
  | v => .problem .notObject bodyLocation v

def Json.readCall (v : Json) (task : Task) : Except Reply Call :=
  ((membersOf v).bind task.check).mapError Reply.ofProblems

def Body.read (body : Body) (task : Task) : Except Reply Call :=
  match body with
  | absent => Json.null.readCall task
  | value v => v.readCall task
  | faulty (.text .malformed) =>
    .error (.ok (.unprocessable [⟨.jsonInvalid, bodyLocation, .object []⟩]))
  | faulty (.text .excessive) | faulty .noText =>
    .error (.ok (.detail 400 "There was an error parsing the body".toList))

/-! ## Routes -/

inductive Route
  | health
  | pages
  | task (t : Task)
  deriving DecidableEq, Repr

def Route.methods : Route → List Text
  | health => ["GET".toList]
  | pages => ["GET".toList, "HEAD".toList]
  | task _ => ["POST".toList]

def Route.read (body : Body) : Route → Except Reply Call
  | health => .ok .health
  | pages => .error (.ok .page)
  | task t => body.read t

def route? (path : Text) : Option Route :=
  match String.ofList path with
  | "/api/health" => some .health
  | "/api/templates/parse" => some (.task .list)
  | "/api/templates/expand" => some (.task .expand)
  | "/api/text/normalize" => some (.task .normalize)
  | "/api/text/reindent" => some (.task .reindent)
  | "/docs" | "/docs/oauth2-redirect" | "/redoc" | "/openapi.json" => some .pages
  | _ => none

/-- A path without the slashes at its end, and without a line feed before them. -/
def trimPath (path : Text) : Text :=
  let trimmed := (path.reverse.dropWhile (· == '/')).reverse
  if trimmed.getLast? = some '\n' then trimmed.dropLast else trimmed

def Target.route? (t : Target) : Option Route :=
  t.path?.bind fun path => Service.route? (trimPath path)

/-! ## Requests -/

/-- Reads a request of a method in capitals for a target. -/
def readFor (method : Text) (target : Target) (body : Body) : Except Reply Call :=
  match target.route? with
  | some route =>
    if route.methods.contains method then route.read body
    else .error (.ok (.detail 405 "Method Not Allowed".toList))
  | none => .error (.ok (.detail 404 "Not Found".toList))

/-- Reads a request.  Only the status is answered when nothing but the head is asked for. -/
def Request.read (r : Request) : Except Reply Call :=
  match Target.read r.target with
  | .error e => .error (.error (.target e))
  | .ok target =>
    let method := Text.upper r.method
    let call := readFor method target r.body
    if method = "HEAD".toList then
      call.mapError fun reply => reply.map fun response => .bare response.status
    else call

/-- The framework of these requests.  A failure leaves nothing but an error of the server. -/
def framework : Framework Request Reply where
  read := Request.read
  reply v := .ok (.reply 200 v)
  refuse e := .ok (.detail e.status e.detail)
  status
    | .ok response => response.status
    | .error _ => 500
  status_reply _ := rfl
  status_refuse _ := rfl

def answer (c : Config) (r : Request) : Reply :=
  framework.serve c r

end Stencil.Service
