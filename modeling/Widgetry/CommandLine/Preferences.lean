import Widgetry.Files.Tree
import Widgetry.Log.Event
import Widgetry.Toml.Document

/-!
Preferences of the command line: a file in the current directory, else one of the user. A file that
cannot be read or has a value of the wrong type counts as no file, and the log says so.
-/

namespace Widgetry.CommandLine

open Log (Event)
open Toml (Value)

/-- The preferences. -/
structure Preferences where
  serverUrl : String
  cdnBaseUrl : Option String
  outputDirectory : Option String
  timeoutSeconds : Nat
  deriving Repr, DecidableEq

namespace Preferences

/-- The preferences when nothing is set. -/
def default : Preferences := ⟨"http://localhost:8000", none, none, 60⟩

/-- The text of a value. -/
def text? : Value → Option String
  | .text s => some s
  | _ => none

/-- The number of seconds of a value. -/
def seconds? : Value → Option Nat
  | .integer i => if Decimal.isNaturalOf 64 i then some i.toNat else none
  | _ => none

/-- Reads a preference if it is there. -/
def optional {α : Type} (es : List (String × Value)) (key : String) (read : Value → Option α) :
    Option (Option α) :=
  match Toml.lookup? key es with
  | none => some none
  | some v => (read v).map some

/-- The preferences of a document; what it says besides is passed over. -/
def ofDocument? (es : List (String × Value)) : Option Preferences := do
  let serverUrl ← optional es "server-url" text?
  let cdnBaseUrl ← optional es "cdn-base-url" text?
  let outputDirectory ← optional es "default-output-dir" text?
  let timeoutSeconds ← optional es "timeout-seconds" seconds?
  return ⟨serverUrl.getD default.serverUrl, cdnBaseUrl, outputDirectory,
    timeoutSeconds.getD default.timeoutSeconds⟩

/-- The file in the current directory. -/
def localFile : String := ".storyweave-ctl.toml"

/-- The file of the user, seen from the home directory. -/
def homeFile : String := ".config/storyweave-ctl.toml"

/-- The file with the preferences, if there is one. -/
def file? (t : FileTree) (current : Place) (home : Option String) : Option String :=
  if t.isFile current localFile then some localFile
  else (home.map fun h => Path.join h homeFile).filter fun path => t.isFile current path

/-- The entry on a file with preferences that was read. -/
def loaded (path : String) : Event :=
  ⟨.debug, "storyweave_ctl::cli_config::loader", "Loaded CLI config",
    [("path", .word (Text.quoted path))]⟩

/-- The entry on a file with preferences of which something failed. -/
def passedOver (what path : String) : Event :=
  ⟨.warn, "storyweave_ctl::cli_config::loader",
    "Failed to " ++ what ++ " CLI config, using defaults",
    [("path", .word (Text.quoted path)), ("error", .cause)]⟩

/-- The preferences of a file, and what is said in the log. -/
def ofFile (t : FileTree) (current : Place) (path : String) : Preferences × Event :=
  match t.read current path with
  | .error _ => (default, passedOver "read" path)
  | .ok text =>
    match (Toml.parse? text).bind ofDocument? with
    | some p => (p, loaded path)
    | none => (default, passedOver "parse" path)

/-- The preferences, and what is said in the log. -/
def load (t : FileTree) (current : Place) (home : Option String) : Preferences × List Event :=
  match file? t current home with
  | none => (default, [])
  | some path =>
    let (p, event) := ofFile t current path
    (p, [event])

/-- A path of the preferences: the home directory may be written as a tilde before the first
slash. -/
def expand (home : Option String) (path : String) : String :=
  match path.toList, home with
  | '~' :: '/' :: rest, some h => Path.join h (String.ofList rest)
  | _, _ => path

end Preferences

end Widgetry.CommandLine
