import Widgetry.CommandLine.Arguments
import Widgetry.CommandLine.Client
import Widgetry.CommandLine.Preferences
import Widgetry.CommandLine.Rendering
import Widgetry.Log.Filter
import Widgetry.Service.Basic

/-!
Carrying out a command line. The result tells all that can be seen of it: the lines on both outputs,
the log, the files, the requests that reached a server, and the problem that ended it if there was
one.

## Sections

1. Outcomes.
2. Commands.
3. Command lines.
-/

namespace Widgetry.CommandLine

open Json (Value)

/-! ## 1. Outcomes -/

/-- What is outside of the program. -/
structure Surroundings where
  files : FileTree
  current : Place
  environment : Dictionary String
  remote : Remote

namespace Surroundings

/-- The home directory of the user. -/
def home (o : Surroundings) : Option String := o.environment.get? "HOME"

end Surroundings

/-- What a command did: lines for its output, what it said besides in the order in which it was
said, the files as they are now, the requests that reached a server, and the problem that ended it.
-/
structure Outcome where
  output : List Line
  messages : List Message
  files : FileTree
  calls : List Http.Call
  problem : Option Problem

namespace Outcome

/-- A command that did nothing but end with a problem. -/
def failed (files : FileTree) (p : Problem) : Outcome := ⟨[], [], files, [], some p⟩

/-- The code that the program ends with. -/
def exit (o : Outcome) : Nat := if o.problem.isSome then 1 else 0

/-- The text on the output. -/
def outputText (o : Outcome) : String := String.join (o.output.map Line.text)

/-- What is said besides the output; the problem is the last of it. -/
def said (o : Outcome) : List Message :=
  o.messages ++ (o.problem.map fun p => .note (.failure p.parts)).toList

/-- The text of the notes, without the entries of the log. -/
def noteText (o : Outcome) : String := String.join ((o.said.filterMap Message.asNote).map Line.text)

end Outcome

/-! ## 2. Commands -/

namespace Surroundings

/-- Renders a saved widget: into a directory if there is one, else to the output. -/
def renderSaved (o : Surroundings) (p : Preferences) (r : RenderRequest) (s : Saved) : Outcome :=
  let widgetId := s.effectiveId r.widgetId
  let cdn := (r.cdnBase.or p.cdnBaseUrl).getD Component.defaultCdn
  let messages := renderMessages s.widget widgetId
  match Artifacts.ofDescription s.widget.repaired widgetId cdn with
  | .error e => ⟨[], messages, o.files, [], some (.component e)⟩
  | .ok a =>
    match r.outputDirectory.or (p.outputDirectory.map (Preferences.expand o.home)) with
    | none => ⟨a.listing, messages, o.files, [], none⟩
    | some directory =>
      match a.write o.files o.current directory with
      | (some problem, files) => ⟨[], messages, files, [], some problem⟩
      | (none, files) => ⟨a.report directory, messages, files, [], none⟩

/-- Renders the widget of a file. -/
def render (o : Surroundings) (p : Preferences) (r : RenderRequest) : Outcome :=
  match Saved.load o.files o.current r.input with
  | .error e => .failed o.files e
  | .ok s => o.renderSaved p r s

/-- Lines of a list with numbers from a number on. -/
def numbered (n : Nat) : List String → List Line
  | [] => []
  | s :: rest => .item n s :: numbered (n + 1) rest

/-- Lists the prompts that are offered as examples. -/
def examples (o : Surroundings) : Outcome :=
  ⟨.heading "Example prompts" :: numbered 1 Service.examples
    ++ [.blank, .aside "Try: storyweave-ctl generate --prompt \"A BMI calculator\""],
   [], o.files, [], none⟩

/-- The outcome of a request whose reply is a response, which is printed. -/
def responseOutcome (o : Surroundings) (note : String) (call : Http.Call) : Outcome :=
  let e := exchange o.remote call Response.parse
  let messages : List Message := [.note (.aside note), .entry (sending call.url)]
  match e.result with
  | .ok r => ⟨[.plain r.value.pretty], messages, o.files, e.sent.toList, none⟩
  | .error problem => ⟨[], messages, o.files, e.sent.toList, some problem⟩

/-- Asks a server for a new widget. -/
def generate (o : Surroundings) (base prompt : String) : Outcome :=
  o.responseOutcome ("Generating widget via " ++ base ++ "...") (generateCall base prompt)

/-- Asks a server for an edit of the widget of a file. -/
def edit (o : Surroundings) (base : String) (r : EditRequest) : Outcome :=
  match Saved.load o.files o.current r.widget with
  | .error e => .failed o.files e
  | .ok s =>
    let widgetId := s.effectiveId r.widgetId
    o.responseOutcome ("Editing widget " ++ widgetId ++ " via " ++ base ++ "...")
      (editCall base widgetId r.instruction s.widget.value)

/-- The lines on the health that a server reports. -/
def healthLines (health : Value) : List Line :=
  let member (key : String) : Option String := match health.member? key with
    | some (.text s) => some s
    | _ => none
  let status := (member "status").getD "unknown"
  .status (status == "healthy") ("Status: " ++ status)
  :: ((member "cache").map fun cache => .labelled "Cache" cache).toList

/-- Asks a server for its health. -/
def health (o : Surroundings) (base : String) : Outcome :=
  let call := healthCall base
  let e := exchange o.remote call Value.parse
  let title : Line := .heading ("StoryWeave server at " ++ base)
  let messages : List Message := [.entry (sending call.url)]
  match e.result with
  | .ok v => ⟨title :: healthLines v, messages, o.files, e.sent.toList, none⟩
  | .error problem =>
    ⟨[title, .status false "Unreachable"], messages, o.files, e.sent.toList, some problem⟩

end Surroundings

/-! ## 3. Command lines -/

/-- Carries out a command with preferences. -/
def Command.run (o : Surroundings) (p : Preferences) : Command → Outcome
  | .render r => o.render p r
  | .examples => o.examples
  | .generate prompt server => o.generate (serverBase (server.getD p.serverUrl)) prompt
  | .edit r => o.edit (serverBase (r.server.getD p.serverUrl)) r
  | .health server => o.health (serverBase (server.getD p.serverUrl))

/-- The filter of the log: the variable counts if it can be read. -/
def logFilter (environment : Dictionary String) (verbose : Bool) : Log.Filter :=
  let own : Log.Filter :=
    if verbose then [⟨some "storyweave", [], some .debug, false⟩] else .level .warn
  ((environment.get? "RUST_LOG").bind Log.Filter.parse?).getD own

/-- Carries out arguments. -/
def Arguments.run (a : Arguments) (o : Surroundings) : Outcome :=
  let (preferences, events) := Preferences.load o.files o.current o.home
  let outcome := a.command.run o preferences
  let filter := logFilter o.environment a.verbose
  let messages := events.map .entry ++ outcome.messages
  { outcome with messages := messages.filter fun m => m.asEntry.all filter.allows }

end Widgetry.CommandLine
