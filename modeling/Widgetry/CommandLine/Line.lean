import Widgetry.Log.Event
import Widgetry.Text.Terminal

/-!
Lines for the person at the command line: a lead that tells what kind of line it is, and a message
in parts. The style of some lines spans the message, so that it ends before the line does.
-/

namespace Widgetry.CommandLine

/-- A line of output. -/
structure Line where
  lead : String
  parts : List String
  isStyled : Bool
  deriving Repr, DecidableEq

namespace Line

/-- A line without lead and style. -/
def plain (s : String) : Line := ⟨"", [s], false⟩

/-- A line without anything. -/
def blank : Line := ⟨"", [], false⟩

/-- A line that goes before others. -/
def heading (s : String) : Line := ⟨"", [s], true⟩

/-- A line that is less important than others. -/
def aside (s : String) : Line := ⟨"", [s], true⟩

/-- What was achieved. -/
def success (s : String) : Line := ⟨"✓ ", [s], true⟩

/-- What should be looked at. -/
def warning (parts : List String) : Line := ⟨"! ", parts, true⟩

/-- What went wrong. -/
def failure (parts : List String) : Line := ⟨"✗ ", parts, true⟩

/-- A value with a name. -/
def labelled (name value : String) : Line := ⟨"  " ++ name ++ ": ", [value], false⟩

/-- Whether something is as it should be. -/
def status (isGood : Bool) (s : String) : Line :=
  ⟨if isGood then "  ✓ " else "  ✗ ", [s], false⟩

/-- A number with a space before it if it has one digit. -/
def padded (n : Nat) : String := if n < 10 then " " ++ toString n else toString n

/-- A line of a list with its number. -/
def item (n : Nat) (s : String) : Line := ⟨"  " ++ padded n ++ ". ", [s], false⟩

/-- The pieces of a line, the line break included. -/
def pieces (l : Line) : List Text.Piece :=
  .text l.lead :: l.parts.map .text ++ (if l.isStyled then [.style] else []) ++ [.text "\n"]

/-- A line as it is printed. -/
def text (l : Line) : String := Text.printed l.pieces

end Line

/-- What a command says besides its output: a line, or an entry of the log. -/
inductive Message where
  | note (l : Line)
  | entry (e : Log.Event)
  deriving Repr, DecidableEq

namespace Message

/-- The line of a message that is one. -/
def asNote : Message → Option Line
  | .note l => some l
  | .entry _ => none

/-- The entry of a message that is one. -/
def asEntry : Message → Option Log.Event
  | .note _ => none
  | .entry e => some e

/-- A message as it is printed. -/
def text : Message → String
  | .note l => l.text
  | .entry e => e.line ++ "\n"

end Message

end Widgetry.CommandLine
