import Widgetry.Json.Value
import Widgetry.Text.Hex

/-!
Text of values: compact, without any white space, or indented by two spaces. Only quotes,
backslashes and the characters below the space are escaped.
-/

namespace Widgetry.Json

/-- The form of a character in a text value. -/
def escaped (c : Char) : List Char :=
  if c == '"' then ['\\', '"']
  else if c == '\\' then ['\\', '\\']
  else if c == '\x08' then ['\\', 'b']
  else if c == '\x0c' then ['\\', 'f']
  else if c == '\n' then ['\\', 'n']
  else if c == '\r' then ['\\', 'r']
  else if c == '\t' then ['\\', 't']
  else if c.toNat < 0x20 then '\\' :: 'u' :: Text.hex4 c.toNat
  else [c]

/-- A text value between its quotes. -/
def printText (s : String) : List Char :=
  '"' :: s.toList.flatMap escaped ++ ['"']

mutual

/-- The compact text of a value. -/
def Value.print : Value → List Char
  | .null => ['n', 'u', 'l', 'l']
  | .bool true => ['t', 'r', 'u', 'e']
  | .bool false => ['f', 'a', 'l', 's', 'e']
  | .number n => n.text.toList
  | .text s => printText s
  | .array items => '[' :: printItems items ++ [']']
  | .object members => '{' :: printMembers members ++ ['}']

/-- Items with commas between them. -/
def printItems : List Value → List Char
  | [] => []
  | [v] => v.print
  | v :: vs => v.print ++ ',' :: printItems vs

/-- Members with commas between them. -/
def printMembers : List (String × Value) → List Char
  | [] => []
  | [(k, v)] => printText k ++ ':' :: v.print
  | (k, v) :: ms => printText k ++ ':' :: v.print ++ ',' :: printMembers ms

end

/-- A new line and two spaces for every level. -/
def newline (level : Nat) : List Char :=
  '\n' :: List.replicate (2 * level) ' '

mutual

/-- The indented text of a value at a level; empty arrays and objects stay on one line. -/
def Value.printIndented (level : Nat) : Value → List Char
  | .array [] => ['[', ']']
  | .array (v :: vs) => '[' :: printItemsIndented (level + 1) (v :: vs) ++ newline level ++ [']']
  | .object [] => ['{', '}']
  | .object (m :: ms) =>
    '{' :: printMembersIndented (level + 1) (m :: ms) ++ newline level ++ ['}']
  | v => v.print

/-- Items, each on a line of its own. -/
def printItemsIndented (level : Nat) : List Value → List Char
  | [] => []
  | [v] => newline level ++ v.printIndented level
  | v :: vs => newline level ++ v.printIndented level ++ ',' :: printItemsIndented level vs

/-- Members, each on a line of its own, with a space after the colon. -/
def printMembersIndented (level : Nat) : List (String × Value) → List Char
  | [] => []
  | [(k, v)] => newline level ++ printText k ++ ':' :: ' ' :: v.printIndented level
  | (k, v) :: ms =>
    newline level ++ printText k ++ ':' :: ' ' :: v.printIndented level
      ++ ',' :: printMembersIndented level ms

end

/-- The compact text of a value. -/
def Value.compact (v : Value) : String :=
  String.ofList v.print

/-- The indented text of a value. -/
def Value.pretty (v : Value) : String :=
  String.ofList (v.printIndented 0)

/-- The text that a value counts as where a text is wanted; null counts as none. -/
def Value.asText : Value → Option String
  | .null => none
  | .text s => some s
  | v => some v.compact

end Widgetry.Json
