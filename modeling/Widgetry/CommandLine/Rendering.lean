import Widgetry.CommandLine.Line
import Widgetry.CommandLine.Saved
import Widgetry.Component.Embed

/-!
Rendering without a server: from a saved widget to its two artifacts, and writing them into a
directory.
-/

namespace Widgetry.CommandLine

open Component (Embed Source)

/-- The artifacts of a widget. -/
structure Artifacts where
  component : Source
  embed : Embed
  deriving Repr, DecidableEq

/-- The name of the file with the snippet. -/
def embedFile : String := "embed.html"

namespace Artifacts

/-- The artifacts of a description whose ids are distinct. -/
def ofDescription (d : Description) (widgetId cdn : String) : Except Component.Error Artifacts :=
  (Component.emit d).map fun source => ⟨source, Embed.of d.title widgetId cdn⟩

/-- The files of the artifacts, by their paths from a directory. -/
def files (a : Artifacts) (directory : String) : List (String × String) :=
  [(Path.join directory (Component.fileName a.component.name), a.component.code),
   (Path.join directory embedFile, a.embed.code)]

end Artifacts

/-- Writes files one after the other, and tells the path of the first one that cannot be written.
What was written before it stays. -/
def writeFiles (t : FileTree) (current : Place) :
    List (String × String) → Option Problem × FileTree
  | [] => (none, t)
  | (path, text) :: rest =>
    match t.write current path text with
    | .error e => (some (.unwritable path e), t)
    | .ok t => writeFiles t current rest

/-- Writes artifacts into a directory, which is made unless it is there. -/
def Artifacts.write (a : Artifacts) (t : FileTree) (current : Place) (directory : String) :
    Option Problem × FileTree :=
  match t.makeDirectories current directory with
  | .error e => (some (.unwritable directory e), t)
  | .ok t => writeFiles t current (a.files directory)

/-- What is said of the repair of a widget: every issue, every id that was renamed, and how many
there were of these. -/
def repairMessages (d : Description) : List Message :=
  let renamings := d.repairIds.2
  d.issues.map (fun i => .note (.warning i.parts))
  ++ renamings.map (fun r => .entry (Log.renamed r))
  ++ if renamings.isEmpty then []
    else [.note (.aside ("Renamed " ++ toString renamings.length ++ " duplicate element id(s)"))]

/-- The entries on a rendering. -/
def renderEvents (d : Description) (widgetId : String) : List Log.Event :=
  match Component.Layout.ofDescription d with
  | .error _ => []
  | .ok l => Log.renderedLayout l
    ++ [⟨.debug, "storyweave_ctl::commands::render", "Rendered widget",
      [("component", .word l.name), ("widget_id", .word widgetId)]⟩]

/-- What is said of a widget while it is rendered. -/
def renderMessages (d : Description) (widgetId : String) : List Message :=
  repairMessages d ++ (renderEvents d.repaired widgetId).map .entry

/-- What is printed of artifacts that are not written to files. -/
def Artifacts.listing (a : Artifacts) : List Line :=
  let trimmedEnd (s : String) : String := String.ofList (Text.trimRight s.toList)
  [.heading (Component.fileName a.component.name), .plain (trimmedEnd a.component.code),
   .blank, .heading embedFile, .plain (trimmedEnd a.embed.code)]

/-- What is printed of artifacts that were written to files. -/
def Artifacts.report (a : Artifacts) (directory : String) : List Line :=
  .success ("Rendered " ++ a.component.name)
  :: (a.files directory).map (fun f => .labelled "Wrote" f.1)
  ++ [.labelled "Embed URL" a.embed.scriptUrl]

end Widgetry.CommandLine
