import Widgetry.CommandLine.Problem
import Widgetry.Widget.Response

/-!
Widgets in files: a bare description, or the response of a server, which is recognised by the member
that holds its description. The whole text is read to a value first and decoded then.
-/

namespace Widgetry.CommandLine

open Json (Decoder Value)

/-- A widget from a file, with the id of its response if it came from one. -/
structure Saved where
  widget : Description
  widgetId : Option String
  deriving DecidableEq

namespace Saved

/-- The widget of a value. -/
def ofValue (v : Value) : Except Json.Error Saved :=
  if (v.member? "widget_data").isSome then
    (Response.decoder.ofValue v).map fun r => ⟨r.widget, some r.widgetId⟩
  else (Description.decoder.ofValue v).map fun d => ⟨d, none⟩

/-- The widget of a text. -/
def parse (text : String) : Except Json.Error Saved :=
  match Value.parse text with
  | .ok v => ofValue v
  | .error e => .error e

/-- The widget of the file that a path leads to. -/
def load (t : FileTree) (current : Place) (path : String) : Except Problem Saved :=
  match t.read current path with
  | .error e => .error (.unreadable path e)
  | .ok text =>
    match parse text with
    | .ok s => .ok s
    | .error e => .error (.noWidget path e)

/-- The id of a widget that neither its file nor the command line gives one. -/
def defaultId : String := "preview"

/-- The id to use: the one asked for, else the one of the response. -/
def effectiveId (s : Saved) (wanted : Option String) : String :=
  (wanted.or s.widgetId).getD defaultId

end Saved

end Widgetry.CommandLine
