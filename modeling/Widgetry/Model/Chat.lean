import Widgetry.Http.Message
import Widgetry.Http.Url
import Widgetry.Model.Content
import Widgetry.Model.Prompt
import Widgetry.Settings.Basic
import Widgetry.Text.Quoted

/-!
The model behind a chat-completions address: one exchange of a system and a user message per call.
Without a key nothing is sent. What is sent and how a reply is judged are separate functions, so a
call is a function of the reply.
-/

namespace Widgetry

open Json (Decoder RecordField RecordKind required Value)

/-! ## 1. Settings of the model as a document -/

namespace ModelSettings

/-- A secret: text or null, where blank text counts as none. -/
def secret : Decoder (Option String) := fun o d r => do
  return (← Decoder.nullable Decoder.text o d r).filter (!Text.isBlankText ·)

/-- The settings read so far. -/
structure Parts where
  baseUrl : Option String
  model : Option String
  apiKey : Option (Option String)
  timeoutSeconds : Option Nat
  maxTokens : Option Nat
  generateTemperature : Option Decimal.Binary
  editTemperature : Option Decimal.Binary

/-- The settings of the model as a record; every field has a default. -/
def record : RecordKind Parts ModelSettings where
  name := "ModelConfig"
  fields :=
    [.slot "base_url" (·.baseUrl) (fun a s => { s with baseUrl := a }) Decoder.text,
     .slot "model" (·.model) (fun a s => { s with model := a }) Decoder.text,
     .slot "api_key" (·.apiKey) (fun a s => { s with apiKey := a }) secret,
     .slot "timeout_seconds" (·.timeoutSeconds) (fun a s => { s with timeoutSeconds := a })
       (Decoder.natural (Decimal.twoTo 64) "u64"),
     .slot "max_tokens" (·.maxTokens) (fun a s => { s with maxTokens := a })
       (Decoder.natural (Decimal.twoTo 32) "u32"),
     .slot "generate_temperature" (·.generateTemperature)
       (fun a s => { s with generateTemperature := a }) Decoder.single,
     .slot "edit_temperature" (·.editTemperature) (fun a s => { s with editTemperature := a })
       Decoder.single]
  start := ⟨none, none, none, none, none, none, none⟩
  complete s :=
    let d := Settings.default.model
    .ok {
      baseUrl := s.baseUrl.getD d.baseUrl
      model := s.model.getD d.model
      apiKey := s.apiKey.getD d.apiKey
      timeoutSeconds := s.timeoutSeconds.getD d.timeoutSeconds
      maxTokens := s.maxTokens.getD d.maxTokens
      generateTemperature := s.generateTemperature.getD d.generateTemperature
      editTemperature := s.editTemperature.getD d.editTemperature }

/-- Reads the settings that a text holds. -/
def parse (text : String) : Except Json.Error ModelSettings :=
  record.decoder.ofText text

end ModelSettings

/-! ## 2. Replies -/

/-- The content of a choice's message. -/
def messageRecord : RecordKind (Option (Option String)) (Option String) where
  name := "ChatChoiceMessage"
  fields := [.slot "content" id (fun a _ => a) (Decoder.nullable Decoder.text)]
  start := none
  complete s := .ok (s.getD none)

/-- A choice, by the content of its message. -/
def choiceRecord : RecordKind (Option (Option String)) (Option String) where
  name := "ChatChoice"
  fields := [.slot "message" id (fun a _ => a) messageRecord.decoder]
  start := none
  complete s := required "message" s

/-- A reply, by the contents of its choices. -/
def replyRecord : RecordKind (Option (List (Option String))) (List (Option String)) where
  name := "ChatResponse"
  fields := [.slot "choices" id (fun a _ => a) (Decoder.list choiceRecord.decoder)]
  start := none
  complete s := .ok (s.getD [])

/-! ## 3. Calls -/

/-- The model behind a chat-completions address. -/
structure ChatModel where
  baseUrl : String
  model : String
  apiKey : Option String
  maxTokens : Nat
  generateTemperature : Decimal.Binary
  editTemperature : Decimal.Binary
  deriving Repr, DecidableEq

namespace ChatModel

/-- The model of its settings: slashes at the end of the address do not count, nor does a blank key.
-/
def ofSettings (s : ModelSettings) : ChatModel where
  baseUrl := Text.dropTrailing '/' s.baseUrl
  model := s.model
  apiKey := s.apiKey.filter (!Text.isBlankText ·)
  maxTokens := s.maxTokens
  generateTemperature := s.generateTemperature
  editTemperature := s.editTemperature

/-- Whether there is a key. -/
def isConfigured (m : ChatModel) : Bool := m.apiKey.isSome

/-- The model as it is shown in messages, without its key. -/
def describe (m : ChatModel) : String :=
  r"OpenAiModel { base_url: " ++ Text.quoted m.baseUrl ++ ", model: " ++ Text.quoted m.model
    ++ ", configured: " ++ (if m.isConfigured then "true" else "false") ++ r" }"

/-- A temperature as a value; one that is not a number of the decimal kind is null. -/
def temperatureValue : Decimal.Binary → Value
  | .finite neg m e => .number (.real Decimal.single (.finite neg m e))
  | _ => .null

/-- The document that asks for a reply to two messages. -/
def requestBody (m : ChatModel) (system user : String) (temperature : Decimal.Binary) : Value :=
  let message (role content : String) : Value :=
    .object [("role", .text role), ("content", .text content)]
  .object
    [("model", .text m.model), ("messages", .array [message "system" system, message "user" user]),
     ("temperature", temperatureValue temperature), ("max_tokens", .number (.int m.maxTokens))]

/-- The request of an exchange. A missing key is an error, as is a key that no header can hold, or
an address to which nothing can be sent. -/
def call (m : ChatModel) (system user : String) (temperature : Decimal.Binary) :
    Except ModelError Http.Call :=
  match m.apiKey with
  | none => .error .notConfigured
  | some key =>
    let url := m.baseUrl ++ "/chat/completions"
    if Http.isHeaderValue key && Http.canSendTo url then
      .ok ⟨"POST", url, some ("Bearer " ++ key),
        some (m.requestBody system user temperature).compact⟩
    else .error (.http false)

/-- The content of a reply; no reply at all means that the connection failed, and one that only
tells of another is not followed by it. -/
def replyContent : Option Http.Reply → Except ModelError String
  | none => .error (.http true)
  | some reply =>
    if reply.isInterim then .error (.http false)
    else if reply.isSuccess then
      match replyRecord.decoder.ofText reply.content with
      | .error _ => .error (.http false)
      | .ok (some content :: _) =>
        if Text.isBlankText content then .error .emptyResponse else .ok content
      | .ok _ => .error .emptyResponse
    else .error (.api reply.status reply.content)

/-- The request for a new widget. -/
def generateCall (m : ChatModel) (prompt : String) : Except ModelError Http.Call :=
  m.call Prompt.generateSystem (Prompt.generation prompt) m.generateTemperature

/-- The request for an edit. -/
def editCall (m : ChatModel) (current : Description) (instruction : String) :
    Except ModelError Http.Call :=
  m.call Prompt.editSystem (Prompt.edit current instruction) m.editTemperature

/-- A new widget, given how the remote end answers requests. -/
def generate (m : ChatModel) (remote : Http.Call → Option Http.Reply) (prompt : String) :
    Except ModelError Description := do
  readContent .embedded (← replyContent (remote (← m.generateCall prompt)))

/-- An edited widget, given how the remote end answers requests. -/
def edit (m : ChatModel) (remote : Http.Call → Option Http.Reply) (current : Description)
    (instruction : String) : Except ModelError Description := do
  readContent .strict (← replyContent (remote (← m.editCall current instruction)))

end ChatModel

end Widgetry
