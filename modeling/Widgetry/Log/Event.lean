import Widgetry.Component.Fragment
import Widgetry.Component.Source
import Widgetry.Text.Hex
import Widgetry.Text.Quoted
import Widgetry.Widget.Repair

/-!
Log entries: a level, the part of the program that speaks, a message and named values. The parts
have names in levels of their own, so that a filter can pick some of them.
-/

namespace Widgetry.Log

/-- How important an entry is, the least important first. -/
inductive Level where
  | trace
  | debug
  | info
  | warn
  | error
  deriving Repr, DecidableEq

namespace Level

/-- The name of a level in an entry. -/
def name : Level → String
  | .trace => "TRACE"
  | .debug => "DEBUG"
  | .info => "INFO"
  | .warn => "WARN"
  | .error => "ERROR"

/-- The rank of a level; a more important one has the higher rank. -/
def rank : Level → Nat
  | .trace => 0
  | .debug => 1
  | .info => 2
  | .warn => 3
  | .error => 4

end Level

/-- A named value of an entry: a word that is written as it is, text that is quoted in a line, a
number, or what another part of the system says of an error, which is not written at all. -/
inductive FieldValue where
  | word (s : String)
  | text (s : String)
  | number (n : Nat)
  | cause
  deriving Repr, DecidableEq

/-- A value in a line. -/
def FieldValue.shown : FieldValue → String
  | .word s => s
  | .text s => Text.quoted s
  | .number n => toString n
  | .cause => ""

/-- A log entry. The target is the part of the program that speaks. -/
structure Event where
  level : Level
  target : String
  message : String
  fields : List (String × FieldValue)
  deriving Repr, DecidableEq

/-- The names of an entry's values; the message is one of them. -/
def Event.fieldNames (e : Event) : List String := "message" :: e.fields.map Prod.fst

/-- The values that are written. -/
def Event.shownFields (e : Event) : List (String × FieldValue) :=
  e.fields.filter fun f => f.2 != .cause

/-- A character of a message: controls that a terminal obeys are written as escapes. -/
def messageChar (c : Char) : List Char :=
  if c == '\x1b' || c == '\x07' || c == '\x08' || c == '\x0c' || c == '\x7f' then
    ['\\', 'x', Text.hexDigit (c.toNat / 16), Text.hexDigit (c.toNat % 16)]
  else if 0x80 ≤ c.toNat && c.toNat ≤ 0x9F then
    r"\u{".toList ++ Text.hex c.toNat ++ ['}']
  else [c]

/-- The message and the values of an entry in a line. -/
def Event.body (e : Event) : String :=
  String.ofList (e.message.toList.flatMap messageChar)
  ++ String.join (e.shownFields.map fun f => " " ++ f.1 ++ "=" ++ f.2.shown)

/-- The line of an entry without its target. -/
def Event.line (e : Event) : String :=
  e.level.name ++ " " ++ e.body

/-- The line of an entry with its target. -/
def Event.fullLine (e : Event) : String :=
  e.level.name ++ " " ++ e.target ++ ": " ++ e.body

/-! ## Entries of the widget library -/

/-- An id was repaired. -/
def renamed (r : Renaming) : Event :=
  ⟨.debug, "storyweave_shared::models::widget", "Renamed duplicate element id",
    [("from", .word r.before), ("to", .word r.after)]⟩

/-- What is said of a component that was rendered: placeholders that stand for elements of unknown
kinds, then its size. -/
def rendered (name : String) (fragments placeholders bytes : Nat) : List Event :=
  let target := "storyweave_sdk::codegen::component"
  (if placeholders = 0 then []
   else [⟨.debug, target, "Rendering unsupported elements as placeholders",
     [("component", .word name), ("placeholders", .number placeholders)]⟩])
  ++ [⟨.debug, target, "Rendered widget component",
    [("component", .word name), ("fragments", .number fragments), ("bytes", .number bytes)]⟩]

/-- What is said of the layout of a component that was rendered. -/
def renderedLayout (l : Component.Layout) : List Event :=
  rendered l.name l.fragments.length (l.fragments.countP Component.Fragment.isPlaceholder)
    l.source.code.utf8ByteSize

end Widgetry.Log
