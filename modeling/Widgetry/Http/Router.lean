import Widgetry.Http.Cors
import Widgetry.Http.MediaType
import Widgetry.Http.Target
import Widgetry.Http.Validation
import Widgetry.Service.Interruption
import Widgetry.Settings.Basic

/-!
The routes of the service. Paths match exactly. A body is looked at in this order: its announced
type, its size, its text, its fields, and their limits; only a body that passes them all reaches the
service.

Two layers lie around the routes. The inner one answers browsers that call across origins and adds
what they are told to every answer of the routes (`handle`). The outer one gives up a request that
takes too long (`answer`), so that the inner one does not see its answer.
-/

namespace Widgetry.Http

open Json (Decoder Value)

/-- A request that is received; headers have lower-case names. A body is text: bytes that are no
UTF-8 are not received here. -/
structure Request where
  method : String
  target : String
  headers : Headers
  body : String
  deriving Repr, DecidableEq

/-- The body of an answer. -/
inductive Body where
  | empty
  | document (v : Value)
  | plain (text : String)

/-- An answer to a request, and the calls to the model that led to it. -/
structure Outcome where
  status : Nat
  headers : Headers
  body : Body
  calls : List ModelCall

/-- The routes. -/
inductive Route where
  | root
  | health
  | examples
  | generate
  | edit
  | download
  deriving Repr, DecidableEq

namespace Route

/-- The path of a route. -/
def path : Route → String
  | root => "/"
  | health => "/health"
  | examples => "/api/examples"
  | generate => "/api/generate-widget"
  | edit => "/api/edit-widget"
  | download => "/api/export-widget"

/-- All routes. -/
def all : List Route := [root, health, examples, generate, edit, download]

/-- The route of a target. -/
def ofTarget (target : String) : Option Route :=
  all.find? fun r => r.path == targetPath target

/-- Whether a route takes a body. -/
def takesBody : Route → Bool
  | generate | edit | download => true
  | _ => false

/-- The methods of a route as the header lists them. -/
def allowed (r : Route) : String :=
  if r.takesBody then "POST" else "GET,HEAD"

end Route

/-- An answer with a document. -/
def documentOutcome (status : Nat) (v : Value) (calls : List ModelCall) : Outcome :=
  ⟨status, [("content-type", "application/json")], .document v, calls⟩

/-- An answer with a line of text. -/
def plainOutcome (status : Nat) (text : String) : Outcome :=
  ⟨status, [("content-type", "text/plain; charset=utf-8")], .plain text, []⟩

/-- The answer to an error. -/
def ApiError.outcome (e : ApiError) (calls : List ModelCall) : Outcome :=
  documentOutcome e.status (.object [("detail", .text e.message)]) calls

/-- The size that a body may have, in bytes. -/
def bodyLimit : Nat := 2 * 1024 * 1024

/-- The answer to a body that is no document, or not the one that a route reads. -/
def unreadOutcome (e : Json.Error) : Outcome :=
  match e.problem with
  | .flaw _ => plainOutcome 400 ("Failed to parse the request body as JSON: " ++ e.pathAndText)
  | .mismatch _ =>
    plainOutcome 422
      ("Failed to deserialize the JSON body into the target type: " ++ e.pathAndText)

/-- Decodes a body, or answers why it is not accepted. -/
def readBody {α : Type} (read : Decoder α) (request : Request) : Except Outcome α :=
  if !(request.headers.get? "content-type").any isJsonType then
    .error (plainOutcome 415 "Expected request with `Content-Type: application/json`")
  else if bodyLimit < request.body.utf8ByteSize then
    .error (plainOutcome 413 "Failed to buffer the request body: length limit exceeded")
  else
    (read.ofText request.body).mapError unreadOutcome

/-- The lines of a message. -/
def joinLines (lines : List String) : String :=
  "\n".intercalate lines

/-- The version that the root route reports. -/
def apiVersion : String := "1.0.0"

section

variable {σ : Type} (service : Service) (cache : Cache σ) (model : Model)

/-- Answers a request on a route that takes a body. -/
def post (route : Route) (request : Request) (st : ServiceState σ) : Outcome × ServiceState σ :=
  match route with
  | .generate =>
    match readBody GenerateRequest.record.decoder request with
    | .error o => (o, st)
    | .ok r =>
      if r.problems.isEmpty then
        let (answer, st) := service.generate cache model r.prompt st
        match answer.result with
        | .ok response => (documentOutcome 200 response.value answer.calls, st)
        | .error e => ((ApiError.generate e).outcome answer.calls, st)
      else ((ApiError.validation (joinLines r.problems)).outcome [], st)
  | .edit =>
    match readBody EditRequest.record.decoder request with
    | .error o => (o, st)
    | .ok r =>
      if r.problems.isEmpty then
        let (answer, st) := service.edit model r.widgetId r.instruction r.current st
        match answer.result with
        | .ok response => (documentOutcome 200 response.value answer.calls, st)
        | .error e => ((ApiError.edit e).outcome answer.calls, st)
      else ((ApiError.validation (joinLines r.problems)).outcome [], st)
  | _ =>
    match readBody Response.decoder request with
    | .error o => (o, st)
    | .ok r =>
      match idProblem? r.widgetId with
      | some p => ((ApiError.validation p.message).outcome [], st)
      | none => (documentOutcome 200 (Service.toExport r).value [], st)

/-- The document of a route that only shows something. -/
def shown : Route → Value
  | .health => .object [("cache", .text cache.name), ("status", .text "healthy")]
  | .examples => .object [("examples", .array (Service.examples.map .text))]
  | _ => .object [("message", .text "StoryWeave AI API"), ("version", .text apiVersion)]

/-- Answers a request on a route. -/
def serve (route : Route) (request : Request) (st : ServiceState σ) :
    Outcome × ServiceState σ :=
  if route.takesBody && request.method == "POST" then post service cache model route request st
  else if !route.takesBody && request.method == "GET" then
    (documentOutcome 200 (shown cache route) [], st)
  else if !route.takesBody && request.method == "HEAD" then
    ({ documentOutcome 200 .null [] with body := .empty }, st)
  else (⟨405, [("allow", route.allowed)], .empty, []⟩, st)

/-- The header that lists the methods of a route. -/
def allowHeader : Option Route → Headers
  | some r => [("allow", r.allowed)]
  | none => []

/-- Answers a request, however long it takes. What a browser asks before its request is answered
without looking further. -/
def handle (cors : Cors) (request : Request) (st : ServiceState σ) :
    Outcome × ServiceState σ :=
  let route := Route.ofTarget request.target
  let common := Cors.varyHeader :: cors.originHeaders request.headers
  if request.method == "OPTIONS" then
    (⟨200, common ++ Cors.preflightHeaders request.headers ++ allowHeader route, .empty, []⟩, st)
  else
    let (outcome, st) := match route with
      | some r => serve service cache model r request st
      | none => (⟨404, [], .empty, []⟩, st)
    ({ outcome with headers := common ++ outcome.headers }, st)

/-! ## The time limit -/

/-- What the work on a request has done when it is given up. Only requests that reach the service
do anything. -/
def workUntil (w : Wait) (request : Request) (st : ServiceState σ) :
    List ModelCall × ServiceState σ :=
  let nothing := ([], st)
  if request.method == "POST" then
    match Route.ofTarget request.target with
    | some .generate =>
      match readBody GenerateRequest.record.decoder request with
      | .error _ => nothing
      | .ok r =>
        if r.problems.isEmpty then service.generateUntil w cache model r.prompt st else nothing
    | some .edit =>
      match readBody EditRequest.record.decoder request with
      | .error _ => nothing
      | .ok r =>
        if r.problems.isEmpty then
          service.editUntil w model r.widgetId r.instruction r.current st
        else nothing
    | _ => nothing
  else nothing

/-- How work on a request goes: the milliseconds until its answer is there, and what it waits for
when its time is over. -/
structure Pace where
  took : Nat
  wait : Wait
  deriving Repr, DecidableEq

/-- The answer to a request that was given up. No other layer adds to it. -/
def givenUp (calls : List ModelCall) : Outcome := ⟨408, [], .empty, calls⟩

/-- Answers a request as a server with these settings does. -/
def answer (server : ServerSettings) (pace : Pace) (request : Request) (st : ServiceState σ) :
    Outcome × ServiceState σ :=
  if pace.took ≤ 1000 * server.requestTimeoutSeconds then
    handle service cache model (Cors.ofOrigins server.corsOrigins) request st
  else
    let (calls, st) := workUntil service cache model pace.wait request st
    (givenUp calls, st)

end

end Widgetry.Http
