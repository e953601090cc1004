import Widgetry.CommandLine.Run
import Widgetry.CommandLine.Snapshot

/-!
The program: it looks at the files and variables that its command line needs, carries the command
line out, prints the result, and writes the files that changed. It is linked without a network, so
every request ends as it does when the server cannot be reached.
-/

open Widgetry
open Widgetry.CommandLine

/-- What is at a path, if anything. -/
def lookAt (path : String) : IO (Option Node) := do
  try
    let bytes ← IO.FS.readBinFile path
    return some (.file (match String.fromUTF8? bytes with
      | some s => .text s
      | none => .bytes))
  catch e =>
    match e with
    | .noFileOrDirectory .. => return none
    | _ => return some .directory

/-- Adds what is at paths to a tree. -/
def lookAtAll (current : Place) (paths : List String) (t : FileTree) : IO FileTree :=
  paths.foldlM (fun t path => do
    match ← lookAt path with
    | some node => return t.seen current path node
    | none => return t) t

/-- The variables of the environment that matter. -/
def readVariables : IO (Dictionary String) := do
  let found ← variableNames.filterMapM fun name => do
    return (← IO.getEnv name).map fun value => (name, value)
  return .ofList found

/-- Writes a file and makes the directories above it. -/
def writeBack (file : Place × String) : IO Unit := do
  IO.FS.createDirAll ("/" ++ "/".intercalate file.1.dropLast)
  IO.FS.writeFile ("/" ++ "/".intercalate file.1) file.2

/-- Carries out arguments on the files around. -/
def carryOut (arguments : Arguments) (environment : Dictionary String) : IO UInt32 := do
  let current := FileTree.placeOf [] (← IO.currentDir).toString
  let home := environment.get? "HOME"
  let start := (FileTree.empty.withParents current).put current .directory
  let start ← lookAtAll current (Preferences.candidates home) start
  let preferences := (Preferences.load start current home).1
  let directory := (preferences.outputDirectory.map (Preferences.expand home)).toList
  let files ← lookAtAll current (arguments.command.paths ++ directory) start
  let outcome := arguments.run ⟨files, current, environment, fun _ => none⟩
  (outcome.files.changedFrom files).forM writeBack
  IO.print outcome.outputText
  outcome.said.forM fun m => IO.eprint m.text
  return outcome.exit.toUInt32

/-- Carries out the command line of the program. -/
def main (words : List String) : IO UInt32 := do
  let environment ← readVariables
  match Arguments.parse words environment with
  | .error (.refused why) =>
    IO.eprintln why.message
    return 2
  | .error (.help topic) =>
    IO.println topic.about
    return 0
  | .error .version =>
    IO.println versionLine
    return 0
  | .ok arguments => carryOut arguments environment
