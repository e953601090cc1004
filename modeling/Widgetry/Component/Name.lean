/-!
Names of components. A title is cut at every character that a name cannot hold, the pieces are
joined with a capital at the start of each, and the name ends in `Widget`.
-/

namespace Widgetry.Component

/-- The characters of a name: letters and digits of ASCII, and the underscore. -/
def isNameChar (c : Char) : Bool :=
  c.isAlphanum || c == '_'

/-- The joined pieces of a title; `start` says whether a piece begins here. -/
def joinedPieces (start : Bool) : List Char → List Char
  | [] => []
  | c :: cs =>
    if isNameChar c then (if start then c.toUpper else c) :: joinedPieces false cs
    else joinedPieces true cs

/-- The end of every name. -/
def nameEnding : List Char := ['W', 'i', 'd', 'g', 'e', 't']

/-- The name of a component by its title's characters; a digit does not come first. -/
def nameChars (title : List Char) : List Char :=
  match joinedPieces true title with
  | [] => nameEnding
  | c :: cs => (if c.isDigit then ['W'] else []) ++ c :: cs ++ nameEnding

/-- The name of a component by its title. -/
def name (title : String) : String :=
  String.ofList (nameChars title.toList)

/-- The file of a component. -/
def fileName (name : String) : String :=
  name ++ ".jsx"

end Widgetry.Component
