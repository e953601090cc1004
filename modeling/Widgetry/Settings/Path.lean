import Widgetry.Decimal.Reading
import Widgetry.Toml.Value

/-!
Paths into the settings. A path is written as names with points between them, and an item of an
array as its number in square brackets, counted from the end if it is negative. Main statements: a
value that was put at a path of keys is found there, and nothing changes under another key.

## Sections

1. Steps.
2. Changing a value at a path.
-/

namespace Widgetry.Settings

open Toml (Value lookup? setEntry lookup?_setEntry_self lookup?_setEntry_of_ne)

/-! ## 1. Steps -/

/-- A step of a path: to the value of a key, or to an item of an array. -/
inductive Step where
  | key (name : String)
  | item (index : Int)
  deriving Repr, DecidableEq

/-- Whether a character may stand in a name of a path. -/
def isNameChar (c : Char) : Bool := c.isAlphanum || c == '_' || c == '-'

/-- A name at the start of a text, and what follows it. -/
def name? (cs : List Char) : Option (Step × List Char) :=
  let name := cs.takeWhile isNameChar
  if name.isEmpty then none else some (.key (String.ofList name), cs.dropWhile isNameChar)

/-- Whether a character may stand beside the number of an item. -/
def isIndexGap (c : Char) : Bool := c == ' ' || c == '\t'

/-- The number of an item behind its opening bracket, and what follows the closing one. -/
def item? (cs : List Char) : Option (Step × List Char) :=
  let cs := cs.dropWhile isIndexGap
  let (neg, digits) : Bool × List Char :=
    if cs.head? == some '-' then (true, cs.tail) else (false, cs)
  match Decimal.natural? (digits.takeWhile Char.isDigit),
      (digits.dropWhile Char.isDigit).dropWhile isIndexGap with
  | some n, ']' :: rest =>
    let i : Int := if neg then -n else n
    if Decimal.fitsSigned 64 i then some (.item i, rest) else none
  | _, _ => none

/-- The steps behind the first one. There are no more of them than `fuel`. -/
def furtherSteps? : Nat → List Char → Option (List Step)
  | _, [] => some []
  | 0, _ => none
  | fuel + 1, c :: cs => do
    let (step, rest) ← if c == '.' then name? cs else if c == '[' then item? cs else none
    return step :: (← furtherSteps? fuel rest)

/-- The path that a text spells out. -/
def steps? (cs : List Char) : Option (List Step) := do
  let (step, rest) ← name? cs
  return step :: (← furtherSteps? rest.length rest)

/-- The path of a name; one that spells out no path stands for itself. -/
def pathOf (name : List Char) : List Step :=
  (steps? name).getD [.key (String.ofList name)]

/-! ## 2. Changing a value at a path -/

/-- The place of an item in an array, and the array with gaps up to that place: behind its end, or
before its start for an item that is counted from the end. -/
def reach (index : Int) (items : List Value) : Nat × List Value :=
  if 0 ≤ index then
    (index.toNat, items ++ List.replicate (index.toNat + 1 - items.length) .gap)
  else if index.natAbs ≤ items.length then (items.length - index.natAbs, items)
  else (0, List.replicate (index.natAbs - items.length) .gap ++ items)

/-- Changes the value at a path. What stands in the way and is no table becomes one, or an array if
an item is asked for. -/
def change (f : Value → Value) : List Step → Value → Value
  | [], v => f v
  | .key key :: path, v =>
    .table (setEntry key (change f path ((lookup? key v.entries).getD .gap)) v.entries)
  | .item index :: path, v =>
    let (place, items) := reach index v.items
    .array (items.modify place (change f path))

/-- Puts a value at a path, on what is there. -/
def put (v : Value) (path : List Step) (new : Value) : Value :=
  change (fun old => old.merge new) path v

/-- A value that is no table is found where it was put. -/
theorem get?_put_self {new : Value} (h : new.isTable = false) (keys : List String) (v : Value) :
    (put v (keys.map .key) new).get? keys = some new := by
  induction keys generalizing v with
  | nil => simp [put, change, Value.get?, Value.merge_of_not_table h]
  | cons key keys ih =>
    have hi := ih ((lookup? key v.entries).getD .gap)
    simp only [put] at hi
    simp [put, change, Value.get?, lookup?_setEntry_self, hi]

/-- Putting a value under one key leaves what is under another one. -/
theorem get?_put_of_ne {key other : String} (h : other ≠ key) (path : List Step)
    (rest : List String) (new v : Value) :
    (put v (.key key :: path) new).get? (other :: rest) = v.get? (other :: rest) := by
  simp [put, change, Value.get?, lookup?_setEntry_of_ne h]

/-- What is found under a key below which a value was put. -/
theorem get?_put_cons (key : String) (path : List Step) (rest : List String) (new v : Value) :
    (put v (.key key :: path) new).get? (key :: rest)
      = (put ((lookup? key v.entries).getD .gap) path new).get? rest := by
  simp [put, change, Value.get?, lookup?_setEntry_self]

end Widgetry.Settings
