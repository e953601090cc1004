import Widgetry.Dictionary
import Widgetry.Settings.Path
import Widgetry.Text.Blank
import Widgetry.Text.LetterCase

/-!
The layers of the settings. The lower layer is a document, the upper one the variables of the
environment that name a setting by section and key. A variable puts its value at the one place it
names and changes nothing else. The type of its value is guessed from its text before anyone asks
for the setting.
-/

namespace Widgetry.Settings

open Toml (Value)

/-- The variables of the environment. -/
abbrev Environment := Dictionary String

/-- What every variable with a setting starts with. -/
def variablePrefix : List Char := "storyweave__".toList

/-- The setting whose variable holds a list, in which commas stand between the items. -/
def listSetting : List Char := "server.cors_origins".toList

/-- Two underscores in a row become a point. -/
def pointed : List Char → List Char
  | '_' :: '_' :: cs => '.' :: pointed cs
  | c :: cs => c :: pointed cs
  | [] => []

/-- The name of the setting that a variable names in letters of either case, if it names one. -/
def settingName? (name : String) : Option (List Char) :=
  let cs := name.toList.flatMap Text.lowered
  if Text.startsWith cs variablePrefix then some (pointed (cs.drop variablePrefix.length)) else none

/-- The value that a variable gives to a setting: a truth value, an integer of 64 bits, a number of
64 bits, or text. -/
def variableValue (setting : List Char) (text : String) : Value :=
  let cs := text.toList
  let word := String.ofList (Text.lowerAscii cs)
  if word == "true" then .boolean true
  else if word == "false" then .boolean false
  else
    match (Decimal.integer? cs).filter (Decimal.fitsSigned 64) with
    | some i => .integer i
    | none =>
      match Decimal.real? Decimal.double cs with
      | some x => .float x
      | none =>
        if setting = listSetting then
          .array ((Text.cut ',' cs).map fun item => .text (String.ofList item))
        else .text text

/-- Puts one variable on top of the settings. -/
def overlay (v : Value) (assignment : String × String) : Value :=
  match settingName? assignment.1 with
  | some name => put v (pathOf name) (variableValue name assignment.2)
  | none => v

/-- Puts the variables of the environment on top of the settings. -/
def overlayAll (v : Value) (environment : Environment) : Value :=
  environment.entries.foldl overlay v

/-- The lower layer: the entries of a document, of which a name with points is a path. -/
def ofDocument (entries : List (String × Value)) : Value :=
  entries.foldl (fun v e => put v (pathOf e.1.toList) e.2) (.table [])

end Widgetry.Settings
