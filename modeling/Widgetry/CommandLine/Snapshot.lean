import Widgetry.CommandLine.Arguments
import Widgetry.CommandLine.Preferences

/-!
What a command needs of the files around it, so that a program can look at them once, carry out the
command on what it saw, and bring back what changed.
-/

namespace Widgetry

namespace FileTree

/-- The place of a path by its names alone. -/
def placeOf (current : Place) (path : String) : Place :=
  ((Path.names path).filter (!·.isEmpty)).foldl
    (fun place name =>
      if name == "." then place else if name == ".." then place.dropLast else place ++ [name])
    (Path.start current path)

/-- Puts the directories above a place. -/
def withParents (t : FileTree) (place : Place) : FileTree :=
  (List.range place.length).foldl
    (fun t n => if (t.node? (place.take n)).isSome then t else t.put (place.take n) .directory) t

/-- Adds what was seen at a path. -/
def seen (t : FileTree) (current : Place) (path : String) (node : Node) : FileTree :=
  let place := placeOf current path
  (t.withParents place).put place node

/-- The files of a tree that are not the same in another one, each once, with their texts. -/
def changedFrom (t before : FileTree) : List (Place × String) :=
  (t.nodes.map Prod.fst).eraseDups.filterMap fun place =>
    match t.node? place with
    | some (.file (.text s)) => if before.node? place = t.node? place then none else some (place, s)
    | _ => none

end FileTree

namespace CommandLine

/-- The paths that a command reads or writes at. -/
def Command.paths : Command → List String
  | .render r => r.input :: r.outputDirectory.toList
  | .edit r => [r.widget]
  | _ => []

/-- The files in which preferences are looked for. -/
def Preferences.candidates (home : Option String) : List String :=
  localFile :: (home.map fun h => Path.join h homeFile).toList

/-- The variables that matter. -/
def variableNames : List String := ["HOME", "RUST_LOG", serverVariable]

end CommandLine

end Widgetry
