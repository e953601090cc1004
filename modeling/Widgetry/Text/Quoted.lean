import Widgetry.Text.Hex
import Widgetry.Text.Hidden

/-!
Quoted text for messages: a text between double quotes in which quotes, backslashes and characters
without a visible form are escaped, so that every message shows what the text holds.
-/

namespace Widgetry.Text

/-- The form of a character between quotes. -/
def quotedChar (c : Char) : List Char :=
  if c == '\x00' then ['\\', '0']
  else if c == '\t' then ['\\', 't']
  else if c == '\n' then ['\\', 'n']
  else if c == '\r' then ['\\', 'r']
  else if c == '"' then ['\\', '"']
  else if c == '\\' then ['\\', '\\']
  else if isHidden c then ['\\', 'u', '{'] ++ hex c.toNat ++ ['}']
  else [c]

/-- A text between double quotes, with hidden characters shown as their code points. -/
def quoted (s : String) : String :=
  String.ofList ('"' :: s.toList.flatMap quotedChar ++ ['"'])

end Widgetry.Text
