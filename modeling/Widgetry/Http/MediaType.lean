import Widgetry.Text.Blank

/-!
Media types of bodies: which content types announce a document. Case and parameters do not matter,
but parameters must be well formed; the subtype is `json` or ends in `+json`.
-/

namespace Widgetry.Http

/-- The characters of a token. -/
def isTokenChar (c : Char) : Bool :=
  c.isAlphanum || r"!#$%&'*+-.^_`|~".toList.contains c

/-- Whether a text is a token. -/
def isToken (cs : List Char) : Bool :=
  !cs.isEmpty && cs.all isTokenChar

/-- Where a reader of parameters stands: in a name, in a value, in a value between quotes, or behind
such a value. The flags say that nothing of the name or value has been read. -/
inductive ParameterState where
  | name (isFresh : Bool)
  | value (isFresh : Bool)
  | quoted (isFresh : Bool)
  | closed
  deriving Repr, DecidableEq

namespace ParameterState

/-- The state after one more character, none when it cannot stand there. Spaces stand before a name
and behind a quoted value; the first character between quotes may itself be a quote. -/
def next : ParameterState → Char → Option ParameterState
  | name isFresh, c =>
    if isTokenChar c then some (name false)
    else if c == ' ' && isFresh then some (name true)
    else if c == '=' && !isFresh then some (value true)
    else none
  | value isFresh, c =>
    if isTokenChar c then some (value false)
    else if c == '"' && isFresh then some (quoted true)
    else if c == ';' && !isFresh then some (name true)
    else none
  | quoted isFresh, c =>
    if c == '"' && !isFresh then some closed
    else if ' ' ≤ c && c ≤ '~' then some (quoted false)
    else none
  | closed, c =>
    if c == ';' then some (name true) else if c == ' ' then some closed else none

/-- Whether parameters may end in a state. -/
def mayEnd : ParameterState → Bool
  | name isFresh => isFresh
  | value _ => true
  | quoted _ => false
  | closed => true

end ParameterState

/-- Whether a text holds parameters, each after a semicolon. -/
def areParameters : List Char → Bool
  | [] => true
  | ';' :: cs => (cs.foldlM ParameterState.next (.name true)).any ParameterState.mayEnd
  | _ => false

/-- The part of a subtype after its last plus sign. -/
def subtypeSuffix (subtype : List Char) : Option (List Char) :=
  if subtype.tail.contains '+' then some (subtype.reverse.takeWhile (· != '+')).reverse else none

/-- The part of a subtype before its last plus sign. -/
def subtypeStem (subtype : List Char) : List Char :=
  if subtype.tail.contains '+' then (subtype.reverse.dropWhile (· != '+')).tail.reverse
  else subtype

/-- Whether a content type announces a document. -/
def isJsonType (contentType : String) : Bool :=
  let cs := Text.lowerAscii contentType.toList
  let kind := cs.takeWhile (· != '/')
  let rest := (cs.dropWhile (· != '/')).tail
  let subtype := rest.takeWhile (· != ';')
  let parameters := rest.dropWhile (· != ';')
  let json := ['j', 's', 'o', 'n']
  kind == "application".toList && isToken subtype && areParameters parameters
    && (subtypeStem subtype == json || subtypeSuffix subtype == some json)

end Widgetry.Http
