import Widgetry.Text.Blank
import Widgetry.Text.Hex

/-!
Text in generated code: double-quoted literals, and text for a comment on one line inside a script
element. Both are inert, whatever the text holds: a literal cannot end early or open a tag, and a
comment cannot end its line or its script.
-/

namespace Widgetry.Component

open Text (isControl isSeparator hex4)

/-- The form of a character in a literal. -/
def literalChar (c : Char) : List Char :=
  if c == '"' then ['\\', '"']
  else if c == '\\' then ['\\', '\\']
  else if c == '\n' then ['\\', 'n']
  else if c == '\r' then ['\\', 'r']
  else if c == '\t' then ['\\', 't']
  else if c == '<' || c == '>' || c == '&' || isSeparator c || isControl c then
    '\\' :: 'u' :: hex4 c.toNat
  else [c]

/-- A text as a double-quoted literal. -/
def literal (s : String) : List Char :=
  '"' :: s.toList.flatMap literalChar ++ ['"']

/-- A text as a double-quoted literal. -/
def literalText (s : String) : String :=
  String.ofList (literal s)

/-- Code between braces. -/
def braced (code : List Char) : List Char :=
  '{' :: code ++ ['}']

/-- Whether a text can stand as a bare name in code. -/
def isBareName (s : String) : Bool :=
  let inner (c : Char) : Bool := c.isAlphanum || c == '_' || c == '$'
  match s.toList with
  | [] => false
  | c :: cs => inner c && !c.isDigit && cs.all inner

/-- Breaks up the sequences that are special inside a script element. -/
def defuse : List Char → List Char
  | '<' :: '/' :: rest => '<' :: '\\' :: '/' :: defuse rest
  | '<' :: '!' :: '-' :: '-' :: rest => '<' :: '\\' :: '!' :: '-' :: '-' :: defuse rest
  | c :: rest => c :: defuse rest
  | [] => []

/-- Controls and line separators as spaces. -/
def flatten (c : Char) : Char :=
  if isControl c || isSeparator c then ' ' else c

/-- A text for a comment on one line of a script. -/
def comment (s : String) : List Char :=
  defuse (Text.trim (s.toList.map flatten))

end Widgetry.Component
