import Widgetry.Toml.Draft
import Widgetry.Toml.Scalar

/-!
Reading a whole document: lines with a header, a key and its value, or neither. Nothing is said
about what is wrong with a text that is no document.

## Sections

1. Keys.
2. Values.
3. Lines.
-/

namespace Widgetry.Toml

/-! ## 1. Keys -/

/-- Whether a character may stand in a key without quotes. -/
def isBareKey (c : Char) : Bool := c.isAlphanum || c == '_' || c == '-'

/-- A text without the spaces and tabs at its start. -/
def dropGap (cs : List Char) : List Char := cs.dropWhile isGap

/-- One part of a key: without quotes, or in quotes on one line. -/
def simpleKey? : List Char → Option (String × List Char)
  | '"' :: rest => (basic? rest).map fun (key, left) => (String.ofList key, left)
  | '\'' :: rest => (literal? rest).map fun (key, left) => (String.ofList key, left)
  | cs =>
    let key := cs.takeWhile isBareKey
    if key.isEmpty then none else some (String.ofList key, cs.dropWhile isBareKey)

/-- The arrays and inline tables that a value may stand in, and the parts that a key may have. -/
def deepest : Nat := 80

/-- A dotted key of at most so many parts, the last one apart. -/
def keyParts? : Nat → List Char → Option (List String × String × List Char)
  | 0, _ => none
  | parts + 1, cs => do
    let (part, rest) ← simpleKey? (dropGap cs)
    match dropGap rest with
    | '.' :: rest => do
      let (path, key, rest) ← keyParts? parts rest
      return (part :: path, key, rest)
    | rest => return ([], part, rest)

/-- A dotted key. -/
def key? (cs : List Char) : Option (List String × String × List Char) := keyParts? deepest cs

/-! ## 2. Values -/

/-- The rest of a comment at the start of a text, none if it holds a control character. -/
def comment? (cs : List Char) : Option (List Char) :=
  let body := cs.takeWhile fun c => c != '\n' && c != '\r'
  if body.all isPlain then some (cs.dropWhile fun c => c != '\n' && c != '\r') else none

/-- A text without the layout and the comments at its start. -/
def dropLayout? : Nat → List Char → Option (List Char)
  | 0, _ => none
  | fuel + 1, cs =>
    match dropGap cs with
    | '#' :: rest => do dropLayout? fuel (← comment? rest)
    | rest =>
      match lineEnd? rest with
      | some rest => dropLayout? fuel rest
      | none => some rest

/-- Whether a character may be part of a scalar without quotes. -/
def isBareScalar (c : Char) : Bool :=
  isBareKey c || c == '+' || c == '.' || c == ':'

/-- The characters of a scalar without quotes. A date and a time may have one space between them. -/
def takeBare (cs : List Char) : List Char × List Char :=
  let (first, rest) := cs.span isBareScalar
  match rest with
  | ' ' :: c :: more =>
    if c.isDigit && date? first == some [] then
      let (second, rest) := (c :: more).span isBareScalar
      (first ++ ' ' :: second, rest)
    else (first, rest)
  | rest => (first, rest)

mutual

/-- A value at the start of a text. The first number bounds the steps, the second the nesting. -/
def value? : Nat → Nat → List Char → Option (Value × List Char)
  | 0, _, _ => none
  | fuel + 1, depth, cs =>
    match cs with
    | '[' :: rest => if depth = 0 then none else items? fuel (depth - 1) [] rest
    | '{' :: rest => if depth = 0 then none else pairs? fuel (depth - 1) [] rest
    | cs =>
      match quoted? cs with
      | some (text, rest) => some (.text (String.ofList text), rest)
      | none =>
        let (scalar, rest) := takeBare cs
        (bare? scalar).map fun v => (v, rest)

/-- The items of an array, behind its opening bracket or a comma. -/
def items? : Nat → Nat → List Value → List Char → Option (Value × List Char)
  | 0, _, _, _ => none
  | fuel + 1, depth, before, cs => do
    match ← dropLayout? (cs.length + 1) cs with
    | ']' :: rest => return (.array before, rest)
    | rest =>
      let (v, rest) ← value? fuel depth rest
      match ← dropLayout? (rest.length + 1) rest with
      | ',' :: rest => items? fuel depth (before ++ [v]) rest
      | ']' :: rest => return (.array (before ++ [v]), rest)
      | _ => none

/-- The entries of an inline table, behind its opening brace or a comma. -/
def pairs? : Nat → Nat → Entries → List Char → Option (Value × List Char)
  | 0, _, _, _ => none
  | fuel + 1, depth, before, cs => do
    match ← dropLayout? (cs.length + 1) cs with
    | '}' :: rest => return (.table (entryValues before), rest)
    | rest =>
      let (path, key, rest) ← key? rest
      let rest ← behind? '=' (← dropLayout? (rest.length + 1) rest)
      let (v, rest) ← value? fuel depth (← dropLayout? (rest.length + 1) rest)
      let entries ← before.addAt path key v
      match ← dropLayout? (rest.length + 1) rest with
      | ',' :: rest => pairs? fuel depth entries rest
      | '}' :: rest => return (.table (entryValues entries), rest)
      | _ => none

end

/-! ## 3. Lines -/

/-- The rest behind the end of a line, in front of which only a comment may stand. -/
def restOfLine? (cs : List Char) : Option (List Char) := do
  let rest ← match dropGap cs with
    | '#' :: rest => comment? rest
    | rest => some rest
  match rest with
  | [] => some []
  | rest => lineEnd? rest

/-- A document in the making: its entries, and the path of the table that lines add to. -/
structure Reading where
  entries : Entries
  path : List String

namespace Reading

/-- Opens a table by its header. -/
def opened (r : Reading) (f : String → Bool → Entries → Option Entries) (path : List String)
    (key : String) : Option Reading := do
  return ⟨← r.entries.change .passed (f key) path false, path ++ [key]⟩

/-- Adds a value to the current table. -/
def added (r : Reading) (path : List String) (key : String) (v : Value) : Option Reading := do
  let entries ← r.entries.change .passed (fun _ es => es.addAt path key v) r.path false
  return { r with entries }

/-- Reads a header behind its first bracket. -/
def header? (r : Reading) (cs : List Char) : Option (Reading × List Char) :=
  match cs with
  | '[' :: cs => do
    let (path, key, rest) ← key? cs
    let rest ← behind? ']' (← behind? ']' rest)
    return (← r.opened Entries.openNext path key, ← restOfLine? rest)
  | cs => do
    let (path, key, rest) ← key? cs
    let rest ← behind? ']' rest
    return (← r.opened Entries.openTable path key, ← restOfLine? rest)

/-- Reads a key and its value. -/
def pair? (r : Reading) (cs : List Char) : Option (Reading × List Char) := do
  let (path, key, rest) ← key? cs
  let (v, rest) ← value? (2 * cs.length + 2) deepest (dropGap (← behind? '=' rest))
  return (← r.added path key v, ← restOfLine? rest)

/-- Reads lines up to the end of a text. -/
def lines? : Nat → Reading → List Char → Option Reading
  | 0, _, _ => none
  | fuel + 1, r, cs => do
    match ← dropLayout? (cs.length + 1) cs with
    | [] => return r
    | '[' :: rest => do
      let (r, rest) ← r.header? rest
      lines? fuel r rest
    | rest => do
      let (r, rest) ← r.pair? rest
      lines? fuel r rest

end Reading

/-- The table that a text holds. A byte order mark may stand at its start. -/
def parse? (text : String) : Option (List (String × Value)) :=
  let cs := match text.toList with
    | '\uFEFF' :: cs => cs
    | cs => cs
  (Reading.lines? (cs.length + 1) ⟨[], []⟩ cs).map fun r => entryValues r.entries

end Widgetry.Toml
