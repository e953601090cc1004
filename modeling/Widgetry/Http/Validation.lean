import Widgetry.Component.Fragment
import Widgetry.Widget.Reading

/-!
The bodies of requests and the limits on their fields. Lengths count characters.
-/

namespace Widgetry.Http

open Json (Decoder RecordField RecordKind required)

/-- Why a widget id is not accepted. -/
inductive IdProblem where
  | length
  | charset
  deriving Repr, DecidableEq

/-- The code of a problem. -/
def IdProblem.code : IdProblem → String
  | length => "widget_id_length"
  | charset => "widget_id_charset"

/-- The message of a problem. -/
def IdProblem.message : IdProblem → String
  | length => "widget_id must be between 1 and 128 characters"
  | charset => "widget_id may only contain letters, digits, '-' and '_'"

/-- The characters of a widget id. -/
def isIdChar (c : Char) : Bool :=
  c.isAlphanum || c == '-' || c == '_'

/-- What is wrong with a widget id. -/
def idProblem? (id : String) : Option IdProblem :=
  if id.length == 0 || 128 < id.length then some .length
  else if id.toList.all isIdChar then none
  else some .charset

/-- The body of a request for a new widget. -/
structure GenerateRequest where
  prompt : String
  userId : Option String
  deriving Repr, DecidableEq

namespace GenerateRequest

/-- The fields read so far. -/
structure Parts where
  prompt : Option String
  userId : Option (Option String)

/-- Requests for a new widget as records; the prompt is required. -/
def record : RecordKind Parts GenerateRequest where
  name := "GenerateWidgetRequest"
  fields :=
    [.slot "prompt" (·.prompt) (fun a s => { s with prompt := a }) Decoder.text,
     .slot "user_id" (·.userId) (fun a s => { s with userId := a })
       (Decoder.nullable Decoder.text)]
  start := ⟨none, none⟩
  complete s := do return ⟨← required "prompt" s.prompt, s.userId.getD none⟩

/-- What is wrong with a request, field by field. -/
def problems (r : GenerateRequest) : List String :=
  if r.prompt.length ≤ 4000 then [] else ["prompt: prompt must be at most 4000 characters"]

end GenerateRequest

/-- The body of a request for an edit. -/
structure EditRequest where
  widgetId : String
  instruction : String
  current : Description
  deriving DecidableEq

namespace EditRequest

/-- The fields read so far. -/
structure Parts where
  widgetId : Option String
  instruction : Option String
  current : Option Description

/-- Requests for an edit as records; every field is required. -/
def record : RecordKind Parts EditRequest where
  name := "EditWidgetRequest"
  fields :=
    [.slot "widget_id" (·.widgetId) (fun a s => { s with widgetId := a }) Decoder.text,
     .slot "edit_prompt" (·.instruction) (fun a s => { s with instruction := a }) Decoder.text,
     .slot "current_widget" (·.current) (fun a s => { s with current := a }) Description.decoder]
  start := ⟨none, none, none⟩
  complete s := do
    let widgetId ← required "widget_id" s.widgetId
    let instruction ← required "edit_prompt" s.instruction
    let current ← required "current_widget" s.current
    return { widgetId, instruction, current }

/-- What is wrong with a request, field by field in the order of their names. -/
def problems (r : EditRequest) : List String :=
  (if 1 ≤ r.instruction.length && r.instruction.length ≤ 4000 then []
    else ["edit_prompt: edit_prompt must be between 1 and 4000 characters"])
  ++ match idProblem? r.widgetId with
    | some p => ["widget_id: " ++ p.message]
    | none => []

end EditRequest

/-- Errors of the interface that are answered with a message. -/
inductive ApiError where
  | validation (message : String)
  | generate (e : Component.Error)
  | edit (e : Component.Error)
  deriving Repr, DecidableEq

namespace ApiError

/-- The status of an error. -/
def status : ApiError → Nat
  | validation _ => 422
  | _ => 500

/-- The message of an error. -/
def message : ApiError → String
  | validation m => m
  | generate e => "Failed to generate widget: " ++ e.message
  | edit e => "Failed to edit widget: " ++ e.message

end ApiError

end Widgetry.Http
