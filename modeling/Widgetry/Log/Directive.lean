import Widgetry.Decimal.Reading
import Widgetry.Log.Event
import Widgetry.Log.Pattern
import Widgetry.Text.Alphanumeric
import Widgetry.Text.Blank

/-!
Directives of a filter. In full a directive is written `target[span{field=value}]=level`, and
every part of it may be left out; a single word is a level if it can be one, else a target.

## Sections

1. Thresholds.
2. Directives.
3. Reading.
-/

namespace Widgetry.Log

/-! ## 1. Thresholds -/

/-- The least important level that is let through, nothing when nothing is. -/
abbrev Threshold := Option Level

/-- Whether a threshold lets a level through. -/
def lets : Threshold → Level → Bool
  | none, _ => false
  | some least, l => least.rank ≤ l.rank

/-- The number that digits spell, with a plus sign before them or without one. -/
def number? (cs : List Char) : Option Nat :=
  Decimal.natural? (if cs.head? == some '+' then cs.tail else cs)

/-- The threshold of a number: the more, the less important is what is let through. -/
def thresholdOfNumber? : Nat → Option Threshold
  | 0 => some none
  | 1 => some (some .error)
  | 2 => some (some .warn)
  | 3 => some (some .info)
  | 4 => some (some .debug)
  | 5 => some (some .trace)
  | _ => none

/-- The threshold of a name in letters of either case. -/
def thresholdOfName? (s : String) : Option Threshold :=
  match String.ofList (Text.lowerAscii s.toList) with
  | "off" => some none
  | "error" => some (some .error)
  | "warn" => some (some .warn)
  | "info" => some (some .info)
  | "debug" => some (some .debug)
  | "trace" => some (some .trace)
  | _ => none

/-- The threshold that a text names. -/
def threshold? (s : String) : Option Threshold :=
  ((number? s.toList).bind thresholdOfNumber?).or (thresholdOfName? s)

/-! ## 2. Directives -/

/-- A directive: the threshold for entries whose target starts with a text and that have all of some
fields. One that asks for a span, or for the value of a field, speaks of no entry outside of spans.
-/
structure Directive where
  target : Option String
  fields : List String
  threshold : Threshold
  isForSpans : Bool
  deriving Repr, DecidableEq

namespace Directive

/-- The directive of a threshold for everything. -/
def ofThreshold (t : Threshold) : Directive := ⟨none, [], t, false⟩

/-- A directive for a further field; between equality signs stands the value that is asked for. -/
def withField? (d : Directive) (field : String) : Option Directive :=
  match Text.cut '=' field.toList with
  | _ :: value :: _ => if Pattern.isValue value then some { d with isForSpans := true } else none
  | _ => some { d with fields := d.fields ++ [field] }

/-- Whether a directive speaks of an entry. -/
def covers (d : Directive) (e : Event) : Bool :=
  !d.isForSpans && d.target.all (fun t => Text.startsWith e.target.toList t.toList)
    && d.fields.all e.fieldNames.contains

/-- The length of a directive's target, zero for a directive on all targets. -/
def weight (d : Directive) : Nat :=
  match d.target with
  | none => 0
  | some t => t.utf8ByteSize + 1

/-- Whether texts come before others in the order of the dictionary. -/
def fieldsBefore : List String → List String → Bool
  | _, [] => false
  | [], _ :: _ => true
  | a :: as, b :: bs => if a == b then fieldsBefore as bs else decide (a < b)

/-- Whether a directive is less specific than another one: its target is shorter, or it asks for
fewer fields, or for ones that come before. -/
def isLessSpecific (d other : Directive) : Bool :=
  if d.weight == other.weight then
    if d.fields.length == other.fields.length then fieldsBefore d.fields other.fields
    else d.fields.length < other.fields.length
  else d.weight < other.weight

/-! ## 3. Reading -/

/-- Whether a target may start with a character. -/
def startsTarget (c : Char) : Bool :=
  c == '-' || c == ':' || c == '_' || Text.isAlphanumeric c

/-- The part of a text between two places, counted in bytes. -/
def part? (text : String) (first last : Nat) : Option String :=
  String.fromUTF8? (text.toUTF8.extract first last)

/-- How far a directive is read: the part at hand, with the place where it begins if it is kept. -/
inductive Progress where
  | start
  | word (first : Nat)
  | span (first : Nat)
  | field (first : Nat)
  | behindField
  | behindSpan
  | level (first : Nat)
  deriving Repr, DecidableEq

/-- Reads a character at a place, on a directive that holds the parts before. -/
def readChar (text : String) (d : Directive) (place : Nat) (c : Char) :
    Progress → Option (Directive × Progress)
  | .start =>
    if c == '[' then some (d, .span (place + 1))
    else if startsTarget c then some (d, .word place) else none
  | .word first =>
    if c == '=' then
      (part? text first place).map fun t => ({ d with target := some t }, .level (place + 1))
    else if c == '[' then
      (part? text first place).map fun t => ({ d with target := some t }, .span (place + 1))
    else some (d, .word first)
  | .span first =>
    if c == ']' then
      (part? text first place).map fun _ => ({ d with isForSpans := true }, .behindSpan)
    else if c == '{' then
      (part? text first place).map fun s =>
        ({ d with isForSpans := !s.isEmpty }, .field (place + 1))
    else some (d, .span first)
  | .field first =>
    if c == '}' then
      (((part? text first place).filter (!·.isEmpty)).bind d.withField?).map (·, .behindField)
    else some (d, .field first)
  | .behindField => if c == ']' then some (d, .behindSpan) else none
  | .behindSpan => if c == '=' then some (d, .level (place + 1)) else none
  | .level first => some (d, .level first)

/-- Reads what is left of a directive. -/
def readChars (text : String) (d : Directive) (place : Nat) (p : Progress) :
    List Char → Option (Directive × Progress)
  | [] => some (d, p)
  | c :: cs =>
    match readChar text d place c p with
    | some (d, p) => readChars text d (place + c.utf8Size) p cs
    | none => none

/-- The directive at the end of its text: a word that stands alone is a level or a target, and an
empty level lets everything through. -/
def finish? (text : String) (d : Directive) : Progress → Option Directive
  | .word first =>
    (part? text first text.utf8ByteSize).map fun s =>
      match threshold? s with
      | some t => { d with threshold := t }
      | none => { d with target := some s }
  | .level first =>
    (part? text first text.utf8ByteSize).bind fun s =>
      if s.isEmpty then some d else (threshold? s).map fun t => { d with threshold := t }
  | .behindSpan => some d
  | _ => none

/-- Reads a directive. The places of its parts are those that they have without the blanks around
it, while the parts are cut from the text with its blanks: so a blank before a level is not passed
over. -/
def parse? (text : String) : Option Directive :=
  (readChars text (ofThreshold (some .trace)) 0 .start (Text.trim text.toList)).bind fun (d, p) =>
    finish? text d p

end Directive

end Widgetry.Log
