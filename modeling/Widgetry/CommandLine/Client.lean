import Widgetry.CommandLine.Problem
import Widgetry.Http.Message
import Widgetry.Http.Url
import Widgetry.Json.Decode
import Widgetry.Log.Event
import Widgetry.Text.Blank

/-!
Requests to a running server. What is sent depends on nothing but the command, and what is made of a
reply on nothing but the reply.
-/

namespace Widgetry.CommandLine

open Json (Decoder Value)

/-- How the remote end answers requests; nothing when it cannot be reached. -/
abbrev Remote := Http.Call → Option Http.Reply

/-- What came of a request: the result, and the request if it reached its end. -/
structure Exchange (α : Type) where
  result : Except Problem α
  sent : Option Http.Call

/-- The address of a server without the slashes at its end. -/
def serverBase (url : String) : String := Text.dropTrailing '/' url

/-- The detail that a reply gives for an error: the text of its member, else its trimmed body. -/
def errorDetail (body : String) : String :=
  match Value.parse body with
  | .ok v =>
    match v.member? "detail" with
    | some (.text s) => s
    | _ => Text.trimmed body
  | .error _ => Text.trimmed body

/-- What is made of a reply. -/
def judge {α : Type} (url : String) (read : String → Except Json.Error α) (reply : Http.Reply) :
    Except Problem α :=
  if reply.isSuccess then
    match read reply.content with
    | .ok a => .ok a
    | .error _ => .error (.transport url .unreadable)
  else .error (.server reply.status (errorDetail reply.content))

/-- Sends a request and judges the reply. -/
def exchange {α : Type} (remote : Remote) (call : Http.Call)
    (read : String → Except Json.Error α) : Exchange α :=
  let failed (p : TransportProblem) : Exchange α := ⟨.error (.transport call.url p), none⟩
  match Http.Url.parse call.url with
  | none => failed .noAddress
  | some u =>
    let u := u.withoutUser
    if !u.isSendable then failed (.notSendable u.text)
    else match remote call with
      | none => failed (.unreachable u.text)
      | some reply =>
        if reply.isInterim then ⟨.error (.transport call.url (.unreachable u.text)), some call⟩
        else ⟨judge call.url read reply, some call⟩

/-- The entry on a request. -/
def sending (url : String) : Log.Event :=
  ⟨.debug, "storyweave_ctl::client", "Sending request", [("url", .word url)]⟩

/-- The request for a server's health. -/
def healthCall (base : String) : Http.Call := ⟨"GET", base ++ "/health", none, none⟩

/-- The request for a new widget. -/
def generateCall (base prompt : String) : Http.Call :=
  ⟨"POST", base ++ "/api/generate-widget", none,
    some (Value.object [("prompt", .text prompt)]).compact⟩

/-- The document that asks for an edit; its members are in ascending order at every depth. -/
def editBody (widgetId instruction : String) (current : Value) : Value :=
  (Value.object
    [("widget_id", .text widgetId), ("edit_prompt", .text instruction),
     ("current_widget", current)]).sorted

/-- The request for an edit. -/
def editCall (base widgetId instruction : String) (current : Value) : Http.Call :=
  ⟨"POST", base ++ "/api/edit-widget", none, some (editBody widgetId instruction current).compact⟩

end Widgetry.CommandLine
