import Widgetry.Widget.Reading
import Widgetry.Widget.Writing

/-!
What is handed out for a widget: the response with the description and both artifacts, and the
bundle for download.
-/

namespace Widgetry

open Json (Decoder RecordField RecordKind required Value)

/-- A rendered widget. -/
structure Response where
  widgetId : String
  widget : Description
  reactCode : String
  embedCode : String
  timestamp : String
  deriving DecidableEq

namespace Response

/-- The fields of a response read so far. -/
structure Parts where
  widgetId : Option String
  widget : Option Description
  reactCode : Option String
  embedCode : Option String
  timestamp : Option String

/-- Responses as records; every field is required. -/
def record : RecordKind Parts Response where
  name := "WidgetResponse"
  fields :=
    [.slot "widget_id" (·.widgetId) (fun a s => { s with widgetId := a }) Decoder.text,
     .slot "widget_data" (·.widget) (fun a s => { s with widget := a }) Description.decoder,
     .slot "react_code" (·.reactCode) (fun a s => { s with reactCode := a }) Decoder.text,
     .slot "embed_code" (·.embedCode) (fun a s => { s with embedCode := a }) Decoder.text,
     .slot "timestamp" (·.timestamp) (fun a s => { s with timestamp := a }) Decoder.text]
  start := ⟨none, none, none, none, none⟩
  complete s := do
    let widgetId ← required "widget_id" s.widgetId
    let widget ← required "widget_data" s.widget
    let reactCode ← required "react_code" s.reactCode
    let embedCode ← required "embed_code" s.embedCode
    let timestamp ← required "timestamp" s.timestamp
    return { widgetId, widget, reactCode, embedCode, timestamp }

/-- Reads a response. -/
def decoder : Decoder Response := record.decoder

/-- Reads the response that a text holds. -/
def parse (text : String) : Except Json.Error Response :=
  decoder.ofText text

/-- The document of a response. -/
def value (r : Response) : Value :=
  .object
    [("widget_id", .text r.widgetId), ("widget_data", r.widget.value),
     ("react_code", .text r.reactCode), ("embed_code", .text r.embedCode),
     ("timestamp", .text r.timestamp)]

/-- The compact text of a response. -/
def text (r : Response) : String :=
  r.value.compact

end Response

/-- A bundle for download. -/
structure Export where
  reactCode : String
  embedCode : String
  widget : Description
  downloadUrl : String
  filename : String
  deriving DecidableEq

/-- The document of a bundle. -/
def Export.value (e : Export) : Value :=
  .object
    [("react_code", .text e.reactCode), ("embed_code", .text e.embedCode),
     ("widget_data", e.widget.value), ("download_url", .text e.downloadUrl),
     ("filename", .text e.filename)]

end Widgetry
