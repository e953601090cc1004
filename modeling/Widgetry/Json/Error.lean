import Widgetry.Json.Number
import Widgetry.Text.Quoted

/-!
What can be wrong with a document, and how it is said. Its text may have a flaw, or a well-formed
value is not what its place asks for. Either is an error of the document, with the path to the value
it is about and, if the document was read from a text, the line and the column at which reading
stopped.

While a tree is walked there is no text at hand. What goes wrong there is a `Trouble`, which says
step by step where in the tree it is; the text is needed only to find its place.
-/

namespace Widgetry.Json

/-! ## 1. Flaws of texts -/

/-- What is wrong with a text. -/
inductive Flaw where
  | endInArray
  | endInObject
  | endInText
  | endInValue
  | noColon
  | noArrayEnd
  | noObjectEnd
  | noWord
  | noValue
  | badEscape
  | badNumber
  | outOfRange
  | controlCharacter
  | keyNotText
  | loneSurrogate
  | unfinishedPair
  | trailingComma
  | trailingCharacters
  | tooDeep
  deriving Repr, DecidableEq

/-- The message of a flaw. -/
def Flaw.message : Flaw → String
  | .endInArray => "EOF while parsing a list"
  | .endInObject => "EOF while parsing an object"
  | .endInText => "EOF while parsing a string"
  | .endInValue => "EOF while parsing a value"
  | .noColon => "expected `:`"
  | .noArrayEnd => "expected `,` or `]`"
  | .noObjectEnd => r"expected `,` or `}`"
  | .noWord => "expected ident"
  | .noValue => "expected value"
  | .badEscape => "invalid escape"
  | .badNumber => "invalid number"
  | .outOfRange => "number out of range"
  | .controlCharacter => "control character (\\u0000-\\u001F) found while parsing a string"
  | .keyNotText => "key must be a string"
  | .loneSurrogate => "lone leading surrogate in hex escape"
  | .unfinishedPair => "unexpected end of hex escape"
  | .trailingComma => "trailing comma"
  | .trailingCharacters => "trailing characters"
  | .tooDeep => "recursion limit exceeded"

/-- Whether a flaw is that the text ends early. -/
def Flaw.isEnd : Flaw → Bool
  | .endInArray | .endInObject | .endInText | .endInValue => true
  | _ => false

/-- A flaw at a token, and how many bytes behind the start of the token reading stops at it. A token
may stand where a comma, a colon or a closing bracket is wanted (`early`). -/
structure Fault where
  flaw : Flaw
  offset : Nat
  early : Bool
  deriving Repr, DecidableEq

namespace Flaw

/-- A flaw inside a token. -/
def inside (f : Flaw) (offset : Nat) : Fault := ⟨f, offset, false⟩

/-- A flaw that the first byte of a token shows. -/
def here (f : Flaw) : Fault := ⟨f, 1, false⟩

/-- The same, where a comma, a colon or a closing bracket is wanted. -/
def between (f : Flaw) : Fault := ⟨f, 1, true⟩

/-- A flaw that shows where no token is left. -/
def ending (f : Flaw) : Fault := ⟨f, 0, false⟩

end Flaw

/-! ## 2. Values out of place -/

/-- A value as it is named in messages. -/
inductive Found where
  | null
  | bool (b : Bool)
  | number (n : Number)
  | text (s : String)
  | array
  | object
  deriving Repr, DecidableEq

/-- The name of a value in messages. -/
def Found.describe : Found → String
  | .null => "null"
  | .bool b => "boolean `" ++ (if b then "true" else "false") ++ "`"
  | .number (.int i) => "integer `" ++ toString i ++ "`"
  | .number (.real f x) => "floating point `" ++ (Number.real f x).text ++ "`"
  | .text s => "string " ++ Text.quoted s
  | .array => "sequence"
  | .object => "map"

/-- A well-formed value that is not what its place asks for. -/
inductive Mismatch where
  | wrongType (found : Found) (expected : String)
  | wrongValue (found : Found) (expected : String)
  | wrongLength (length : Nat) (expected : String)
  | missingField (name : String)
  | duplicateField (name : String)
  deriving Repr, DecidableEq

/-- The message of a mismatch. -/
def Mismatch.message : Mismatch → String
  | .wrongType found expected => "invalid type: " ++ found.describe ++ ", expected " ++ expected
  | .wrongValue found expected => "invalid value: " ++ found.describe ++ ", expected " ++ expected
  | .wrongLength n expected => "invalid length " ++ toString n ++ ", expected " ++ expected
  | .missingField name => "missing field `" ++ name ++ "`"
  | .duplicateField name => "duplicate field `" ++ name ++ "`"

/-! ## 3. Errors -/

/-- What is wrong with a document. -/
inductive Problem where
  | flaw (f : Flaw)
  | mismatch (m : Mismatch)
  deriving Repr, DecidableEq

/-- The message of a problem. -/
def Problem.message : Problem → String
  | .flaw f => f.message
  | .mismatch m => m.message

/-- A step of a path, from an array or object to a value in it. -/
inductive Selector where
  | item (index : Nat)
  | member (key : String)
  deriving Repr, DecidableEq

/-- A path as messages name it: keys with points between them, and indices in brackets. -/
def pathText : List Selector → String
  | [] => ""
  | .item i :: rest => "[" ++ toString i ++ "]" ++ pathTail rest
  | .member key :: rest => key ++ pathTail rest
where
  /-- The steps behind the first one. -/
  pathTail : List Selector → String
    | [] => ""
    | .item i :: rest => "[" ++ toString i ++ "]" ++ pathTail rest
    | .member key :: rest => "." ++ key ++ pathTail rest

/-- A place in a text: its line, counted from one, and the bytes of the line in front of it. -/
structure Position where
  line : Nat
  column : Nat
  deriving Repr, DecidableEq

/-- The first problem of a document in the order of its text, with the path to the value it is
about. A document that was no text has no positions. -/
structure Error where
  path : List Selector
  problem : Problem
  position : Option Position
  deriving Repr, DecidableEq

namespace Error

/-- The message of an error without its place. -/
def message (e : Error) : String := e.problem.message

/-- The text of an error. -/
def text (e : Error) : String :=
  match e.position with
  | none => e.message
  | some p => e.message ++ " at line " ++ toString p.line ++ " column " ++ toString p.column

/-- The same error of a text that is laid out otherwise, its place left open. -/
def unplaced (e : Error) : Error := { e with position := none }

/-- The text of an error behind the path to its value. -/
def pathAndText (e : Error) : String :=
  if e.path.isEmpty then e.text else pathText e.path ++ ": " ++ e.text

end Error

/-! ## 4. Troubles on the way through a tree -/

/-- The first problem of a tree. It is of the value itself, or inside the array or object: in the
first item or member, there in a value or in a key, or where another item or member should be, or
behind the first one (`later`). A member is named unless nothing around it is kept. -/
inductive Trouble where
  | fault (f : Fault)
  | mismatch (m : Mismatch)
  | item (t : Trouble)
  | member (key : String) (t : Trouble)
  | unread (key : String) (t : Trouble)
  | key (f : Fault)
  | repeated (key : String)
  | stopped (f : Fault)
  | trailing
  | later (t : Trouble)
  deriving Repr, DecidableEq

namespace Trouble

/-- What is wrong in a trouble. -/
def problem : Trouble → Problem
  | fault f | key f | stopped f => .flaw f.flaw
  | mismatch m => .mismatch m
  | repeated name => .mismatch (.duplicateField name)
  | trailing => .flaw .trailingCharacters
  | item t | member _ t | unread _ t | later t => t.problem

/-- The path to the value a trouble is about, when so many items have been passed. What is in a
value that is not kept is said of this value. -/
def pathFrom (passed : Nat) : Trouble → List Selector
  | later t => t.pathFrom (passed + 1)
  | item t => .item passed :: t.pathFrom 0
  | member name t => .member name :: t.pathFrom 0
  | unread name _ => [.member name]
  | _ => []

/-- A trouble behind so many items or members. -/
def behind (t : Trouble) : Nat → Trouble
  | 0 => t
  | n + 1 => later (t.behind n)

/-- The error of a document that was no text. -/
def bare (t : Trouble) : Error := ⟨t.pathFrom 0, t.problem, none⟩

end Trouble

end Widgetry.Json
