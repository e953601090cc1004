import Widgetry.CommandLine.Switches
import Widgetry.Dictionary

/-!
The command line: a command with its switches. The command `help` and the switches for help and for
the version come before everything behind them.

## Sections

1. Commands.
2. Switches of each command.
3. Reading.
-/

namespace Widgetry.CommandLine

/-! ## 1. Commands -/

/-- The names of the commands. -/
inductive CommandName where
  | render
  | examples
  | generate
  | edit
  | health
  deriving Repr, DecidableEq

namespace CommandName

/-- The command of a word. -/
def ofText? : String → Option CommandName
  | "render" => some .render
  | "examples" => some .examples
  | "generate" => some .generate
  | "edit" => some .edit
  | "health" => some .health
  | _ => none

/-- What a command does, in one line. -/
def about : CommandName → String
  | .render => "Render a widget JSON file into a React component and embed snippet"
  | .examples => "List example prompts"
  | .generate => "Generate a widget on a running server and print the response"
  | .edit => "Edit a widget on a running server and print the response"
  | .health => "Check a running server's health"

end CommandName

/-- What rendering is asked for. -/
structure RenderRequest where
  input : String
  widgetId : Option String
  cdnBase : Option String
  outputDirectory : Option String
  deriving Repr, DecidableEq

/-- What an edit is asked for. The address of the server may be left to the preferences. -/
structure EditRequest where
  widget : String
  instruction : String
  widgetId : Option String
  server : Option String
  deriving Repr, DecidableEq

/-- A command with its arguments. -/
inductive Command where
  | render (request : RenderRequest)
  | examples
  | generate (prompt : String) (server : Option String)
  | edit (request : EditRequest)
  | health (server : Option String)
  deriving Repr, DecidableEq

/-- A command line that can be carried out. -/
structure Arguments where
  verbose : Bool
  command : Command
  deriving Repr, DecidableEq

/-- What help is wanted on: the program, a command, or help itself. -/
inductive Topic where
  | program
  | command (name : CommandName)
  | help
  deriving Repr, DecidableEq

/-- The first line of help on a topic. -/
def Topic.about : Topic → String
  | .program => "Command-line interface for StoryWeave: offline rendering and server client"
  | .command name => name.about
  | .help => "Print this message or the help of the given subcommand(s)"

/-- A command line that is answered without carrying out a command. -/
inductive Answer where
  | refused (why : Refusal)
  | help (topic : Topic)
  | version
  deriving Repr, DecidableEq

/-- What is printed as the version. -/
def versionLine : String := "storyweave-ctl 0.1.0"

/-! ## 2. Switches of each command -/

/-- The switch for more output. -/
def verboseSwitch : Switch := ⟨"verbose", some 'v', .nothing, false⟩

/-- The switch for help. -/
def helpSwitch : Switch := ⟨"help", some 'h', .nothing, false⟩

/-- The switch for the version. -/
def versionSwitch : Switch := ⟨"version", some 'V', .nothing, false⟩

/-- The switch for the address of the server. -/
def serverSwitch : Switch := ⟨"server", none, .text, false⟩

/-- The switch for the id of a widget. -/
def widgetIdSwitch : Switch := ⟨"widget-id", none, .text, false⟩

/-- The switches before the command. -/
def programSwitches : List Switch := [verboseSwitch, helpSwitch, versionSwitch]

/-- The switches of a command alone. -/
def CommandName.ownSwitches : CommandName → List Switch
  | .render =>
    [⟨"input", some 'i', .path, true⟩, widgetIdSwitch, ⟨"cdn-base", none, .text, false⟩,
     ⟨"output-dir", some 'o', .path, false⟩]
  | .examples => []
  | .generate => [⟨"prompt", some 'p', .text, true⟩, serverSwitch]
  | .edit =>
    [⟨"widget", some 'w', .path, true⟩, ⟨"instruction", some 'i', .text, true⟩, widgetIdSwitch,
     serverSwitch]
  | .health => [serverSwitch]

/-- The switches behind a command. -/
def CommandName.switches (name : CommandName) : List Switch :=
  name.ownSwitches ++ [verboseSwitch, helpSwitch]

/-! ## 3. Reading -/

/-- Reads the words behind a command. A command has no arguments but its switches. -/
def readCommand (switches : List Switch) : Progress → List String → Except Stop Progress
  | p, [] => p.complete switches
  | p, word :: words =>
    match Word.ofText word with
    | .separator =>
      if words.isEmpty then p.complete switches else .error (.refused .unknown)
    | .long cs =>
      match readLong switches p cs with
      | .ok p => readCommand switches p words
      | .error stop => .error stop
    | .letters cs =>
      match readLetters switches p cs with
      | .ok p => readCommand switches p words
      | .error stop => .error stop
    | .plain s =>
      if p.wantsValue then readCommand switches (p.given s) words
      else .error (.refused .unknown)

/-- The variable with the address of the server. -/
def serverVariable : String := "STORYWEAVE_SERVER_URL"

/-- The command of the values that were read. Required values are there. -/
def CommandName.command (name : CommandName) (p : Progress) (environment : Dictionary String) :
    Command :=
  let value (long : String) : String := (p.value? long).getD ""
  let server := (p.value? "server").or (environment.get? serverVariable)
  match name with
  | .render =>
    .render ⟨value "input", p.value? "widget-id", p.value? "cdn-base", p.value? "output-dir"⟩
  | .examples => .examples
  | .generate => .generate (value "prompt") server
  | .edit => .edit ⟨value "widget", value "instruction", p.value? "widget-id", server⟩
  | .health => .health server

/-- What a stop is answered with on a topic. -/
def Stop.answer (topic : Topic) : Stop → Answer
  | .refused why => .refused why
  | .help => .help topic
  | .version => .version

/-- Help on the topic that words name. -/
def helpOn : List String → Answer
  | [] => .help .program
  | [word] =>
    match CommandName.ofText? word with
    | some name => .help (.command name)
    | none => if word == "help" then .help .help else .refused .unknownCommand
  | _ => .refused .unknownCommand

/-- The answer to words behind a separator, where no command is looked for. -/
def behindSeparator (p : Progress) : List String → Answer
  | [] => .refused (if p.values.isEmpty then .nothingGiven else .missingCommand)
  | word :: _ =>
    if (CommandName.ofText? word).isSome || word == "help" then .refused .unknown
    else .refused .unknownCommand

/-- Reads the words up to the command and behind it. -/
def readWords (environment : Dictionary String) : Progress → List String → Except Answer Arguments
  | p, [] => .error (behindSeparator p [])
  | p, word :: words =>
    match Word.ofText word with
    | .separator => .error (behindSeparator p words)
    | .long cs =>
      match readLong programSwitches p cs with
      | .ok p => readWords environment p words
      | .error stop => .error (stop.answer .program)
    | .letters cs =>
      match readLetters programSwitches p cs with
      | .ok p => readWords environment p words
      | .error stop => .error (stop.answer .program)
    | .plain s =>
      match CommandName.ofText? s with
      | some name =>
        match readCommand name.switches .start words with
        | .ok q => .ok ⟨(p.value? "verbose").isSome || (q.value? "verbose").isSome,
            name.command q environment⟩
        | .error stop => .error (stop.answer (.command name))
      | none => .error (if s == "help" then helpOn words else .refused .unknownCommand)

/-- Reads a command line. -/
def Arguments.parse (words : List String) (environment : Dictionary String) :
    Except Answer Arguments :=
  readWords environment .start words

end Widgetry.CommandLine
