import Widgetry.Dictionary
import Widgetry.Text.Alphanumeric
import Widgetry.Text.Blank

/-!
Files of variables. A line sets one variable; quotes may hold line ends; a variable that is already
set keeps its value; the first line that cannot be read ends the reading, and what was set before it
stays.

## Sections

1. Lines.
2. Values.
3. Variables.
-/

namespace Widgetry.Dotenv

/-! ## 1. Lines -/

/-- Where in a line a character stands. -/
inductive Place where
  | inside
  | gap
  | escape
  | weak
  | weakEscape
  | strong
  | strongEscape
  deriving Repr, DecidableEq

/-- The place behind a quote, a backslash or another character outside of quotes. -/
def Place.opened (c : Char) : Place :=
  if c == '\\' then .escape
  else if c == '"' then .weak
  else if c == '\'' then .strong
  else .inside

/-- The place behind a character. -/
def Place.next (p : Place) (c : Char) : Place :=
  match p with
  | .inside =>
    if Text.isBlank c && c != '\n' && c != '\r' then .gap else opened c
  | .gap => opened c
  | .escape => .inside
  | .weak => if c == '\\' then .weakEscape else if c == '"' then .inside else .weak
  | .weakEscape => .weak
  | .strong => if c == '\\' then .strongEscape else if c == '\'' then .inside else .strong
  | .strongEscape => .strong

/-- Walks through a line: the characters before a comment, whether there is one, and the place at
the end. -/
def walk : Place → List Char → List Char × Bool × Place
  | p, [] => ([], false, p)
  | p, c :: cs =>
    if p == .gap && c == '#' then ([], true, .inside)
    else
      let (before, commented, last) := walk (p.next c) cs
      (c :: before, commented, last)

/-- The lines of a text, each with its line end. -/
def physicalLines : List Char → List (List Char)
  | [] => []
  | c :: cs =>
    if c == '\n' then [c] :: physicalLines cs
    else match physicalLines cs with
      | line :: lines => (c :: line) :: lines
      | [] => [[c]]

/-- A line without its line end. -/
def dropLineEnd (cs : List Char) : List Char :=
  match cs.reverse with
  | '\n' :: '\r' :: rest => rest.reverse
  | '\n' :: rest => rest.reverse
  | _ => cs

/-- Joins lines whose quotes are still open. A line that starts with a number sign is empty; the
result ends with nothing when quotes are open at the end. -/
def joinLines (before : List Char) (p : Place) : List (List Char) → List (Option (List Char))
  | [] => if p == .inside then [] else [none]
  | line :: lines =>
    if (Text.trimLeft (before ++ line)).head? == some '#' then
      some [] :: joinLines [] .inside lines
    else
      match walk p line with
      | (kept, true, _) => some (before ++ kept) :: joinLines [] .inside lines
      | (_, false, .inside) => some (dropLineEnd (before ++ line)) :: joinLines [] .inside lines
      | (_, false, open') => joinLines (before ++ line) open' lines

/-! ## 2. Values -/

/-- A name that is being replaced by its value: without braces, or within braces. -/
inductive Substitution where
  | plain (name : List Char)
  | braced (name : List Char)
  deriving Repr, DecidableEq

/-- The quotes around a character. -/
inductive Quotes where
  | none
  | weak
  | strong
  deriving Repr, DecidableEq

/-- What of a value was read so far, text and names with the last character first. -/
structure Progress where
  output : List Char
  quotes : Quotes
  escaped : Bool
  substitution : Option Substitution
  ended : Bool

/-- The value of a variable, empty if it is not set. -/
def valueOf (environment : Dictionary String) (name : List Char) : List Char :=
  ((environment.get? (String.ofList name)).getD "").toList

namespace Progress

/-- Adds a character. -/
def push (p : Progress) (c : Char) : Progress := { p with output := c :: p.output }

/-- Adds the value of a name that was read last character first, and ends the replacement. -/
def replace (p : Progress) (environment : Dictionary String) (name : List Char) : Progress :=
  { p with
    output := (valueOf environment name.reverse).reverse ++ p.output
    substitution := none }

/-- A character of a name, or the one behind it. -/
def substitute (p : Progress) (environment : Dictionary String) (s : Substitution) (c : Char) :
    Progress :=
  match s with
  | .plain name =>
    if Text.isAlphanumeric c then { p with substitution := some (.plain (c :: name)) }
    else if c == '{' && name.isEmpty then { p with substitution := some (.braced []) }
    else
      let p := p.replace environment name
      if c == '$' then { p with substitution := some (.plain []) } else p.push c
  | .braced name =>
    if Text.isAlphanumeric c then { p with substitution := some (.braced (c :: name)) }
    else if c == '}' then p.replace environment name
    else { p with substitution := some (.braced (c :: name)) }

/-- A character behind a backslash. -/
def unescape (p : Progress) (c : Char) : Option Progress :=
  let p := { p with escaped := false }
  if c == '\\' || c == '\'' || c == '"' || c == '$' || c == ' ' then some (p.push c)
  else if c == 'n' then some (p.push '\n')
  else none

/-- A character outside of names and backslashes. -/
def plain (p : Progress) (c : Char) : Progress :=
  match p.quotes with
  | .strong => if c == '\'' then { p with quotes := .none } else p.push c
  | .weak =>
    if c == '$' then { p with substitution := some (.plain []) }
    else if c == '"' then { p with quotes := .none }
    else if c == '\\' then { p with escaped := true }
    else p.push c
  | .none =>
    if c == '$' then { p with substitution := some (.plain []) }
    else if c == '\'' then { p with quotes := .strong }
    else if c == '"' then { p with quotes := .weak }
    else if c == '\\' then { p with escaped := true }
    else if c == ' ' || c == '\t' then { p with ended := true }
    else p.push c

/-- Reads characters of a value. Behind a gap only a comment may follow. -/
def read (environment : Dictionary String) : Progress → List Char → Option Progress
  | p, [] => some p
  | p, c :: cs =>
    if p.ended then
      if c == ' ' || c == '\t' then read environment p cs
      else if c == '#' then some p
      else none
    else if p.escaped then
      match p.unescape c with
      | some p => read environment p cs
      | none => none
    else if p.quotes == .strong then read environment (p.plain c) cs
    else
      match p.substitution with
      | some s => read environment (p.substitute environment s c) cs
      | none => read environment (p.plain c) cs

/-- The value at the end of a line, none when quotes or braces are open. -/
def result (p : Progress) (environment : Dictionary String) : Option String :=
  if p.quotes != .none then none
  else match p.substitution with
    | some (.braced _) => none
    | some (.plain name) => some (String.ofList (p.replace environment name).output.reverse)
    | none => some (String.ofList (p.replace environment []).output.reverse)

end Progress

/-- The value that a text spells out. -/
def value? (environment : Dictionary String) (cs : List Char) : Option String :=
  match Progress.read environment ⟨[], .none, false, none, false⟩ cs with
  | some p => p.result environment
  | none => none

/-! ## 3. Variables -/

/-- The name of a variable at the start of a text, and the rest without white space at its start. -/
def name? (cs : List Char) : Option (String × List Char) :=
  let inName (c : Char) : Bool := c.isAlphanum || c == '_' || c == '.'
  match cs with
  | [] => none
  | c :: _ =>
    if c.isAlpha || c == '_' then
      some (String.ofList (cs.takeWhile inName), Text.trimLeft (cs.dropWhile inName))
    else none

/-- The name that a line sets and what is behind the sign of equality. The word `export` may stand
before the name. -/
def assignment? (cs : List Char) : Option (String × List Char) := do
  let (name, rest) ← name? cs
  match rest with
  | '=' :: rest => return (name, rest)
  | rest =>
    if name == "export" then
      let (name, rest) ← name? rest
      match rest with
      | '=' :: rest => return (name, rest)
      | _ => none
    else none

/-- The variable that a line sets. The outer option tells whether the line can be read, the inner
one whether it sets a variable. -/
def line? (environment : Dictionary String) (cs : List Char) : Option (Option (String × String)) :=
  let cs := Text.trim cs
  if cs.isEmpty || cs.head? == some '#' then some none
  else do
    let (name, rest) ← assignment? cs
    let rest := Text.trimLeft rest
    if rest.isEmpty || rest.head? == some '#' then return some (name, "")
    return some (name, ← value? environment rest)

/-- Sets the variables of lines that are not set yet, up to the first line that cannot be read. -/
def setLines (environment : Dictionary String) : List (Option (List Char)) → Dictionary String
  | [] => environment
  | none :: _ => environment
  | some line :: lines =>
    match line? environment line with
    | none => environment
    | some none => setLines environment lines
    | some (some (name, value)) =>
      setLines
        (if (environment.get? name).isSome then environment else environment.insert name value)
        lines

/-- The variables with those of a file added. -/
def load (environment : Dictionary String) (text : String) : Dictionary String :=
  let cs := match text.toList with
    | '\uFEFF' :: cs => cs
    | cs => cs
  setLines environment (joinLines [] .inside (physicalLines cs))

end Widgetry.Dotenv
