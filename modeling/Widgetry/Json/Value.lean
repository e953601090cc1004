import Widgetry.Dictionary
import Widgetry.Json.Position

/-!
Document values. A value that is read has the members of its objects in ascending order of their
keys, and of members with one key the last; a value that is built has them in the order given.
-/

namespace Widgetry.Json

/-- A value of a document. -/
inductive Value where
  | null
  | bool (b : Bool)
  | number (n : Number)
  | text (s : String)
  | array (items : List Value)
  | object (members : List (String × Value))

/-- How many more arrays and objects may be opened inside one another. -/
abbrev Depth := Nat

/-- The nesting that kept values may have. -/
def deepest : Depth := 127

/-- Opens an array or object. -/
def Depth.enter : Depth → Except Trouble Depth
  | 0 => .error (.fault Flaw.tooDeep.here)
  | d + 1 => .ok d

mutual

/-- The value of a tree, every part of which is kept. -/
def Raw.value (d : Depth) : Raw → Except Trouble Value
  | .null => .ok .null
  | .bool b => .ok (.bool b)
  | .number (.ok n) => .ok (.number n)
  | .number (.error f) => .error (.fault f)
  | .text (.ok s) => .ok (.text s)
  | .text (.error f) => .error (.fault f)
  | .array items => do
    let d ← d.enter
    return .array (← items.values d)
  | .object members => do
    let d ← d.enter
    return .object (← members.values d [])
  | .broken kept _ => .error (.fault kept)

/-- The values of items. -/
def Items.values (d : Depth) : Items → Except Trouble (List Value)
  | .closed => .ok []
  | .stopped kept _ => .error (.stopped kept)
  | .cons item rest => do
    let v ← (item.value d).mapError .item
    return v :: (← (rest.values d).mapError .later)

/-- The values of members, added to those of members before. -/
def Members.values (d : Depth) :
    Members → List (String × Value) → Except Trouble (List (String × Value))
  | .closed, done => .ok done
  | .stopped kept _, _ => .error (.stopped kept)
  | .cons (.error f) _ _, _ => .error (.key f)
  | .cons (.ok key) value rest, done => do
    let v ← (value.value d).mapError (.member key)
    (rest.values d (insertAscending key v done)).mapError .later

end

mutual

/-- The tree of a value. -/
def Value.raw : Value → Raw
  | .null => .null
  | .bool b => .bool b
  | .number n => .number (.ok n)
  | .text s => .text (.ok s)
  | .array items => .array (rawItems items)
  | .object members => .object (rawMembers members)

/-- The tree of values in an array. -/
def rawItems : List Value → Items
  | [] => .closed
  | v :: vs => .cons v.raw (rawItems vs)

/-- The tree of members of an object. -/
def rawMembers : List (String × Value) → Members
  | [] => .closed
  | (k, v) :: ms => .cons (.ok k) v.raw (rawMembers ms)

end

mutual

/-- How many arrays and objects are opened inside one another in a value. -/
def Value.nesting : Value → Nat
  | .array items => nestingOfItems items + 1
  | .object members => nestingOfMembers members + 1
  | _ => 0

/-- The greatest nesting of values. -/
def nestingOfItems : List Value → Nat
  | [] => 0
  | v :: vs => max v.nesting (nestingOfItems vs)

/-- The greatest nesting of the values of members. -/
def nestingOfMembers : List (String × Value) → Nat
  | [] => 0
  | (_, v) :: ms => max v.nesting (nestingOfMembers ms)

end

mutual

/-- The value with the members of all its objects in ascending order. -/
def Value.sorted : Value → Value
  | .array items => .array (sortedItems items)
  | .object members => .object (sortedMembers members [])
  | v => v

/-- Values with their members in ascending order. -/
def sortedItems : List Value → List Value
  | [] => []
  | v :: vs => v.sorted :: sortedItems vs

/-- Members in ascending order, added to members before. -/
def sortedMembers : List (String × Value) → List (String × Value) → List (String × Value)
  | [], done => done
  | (k, v) :: ms, done => sortedMembers ms (insertAscending k v.sorted done)

end

/-- The value of a whole text. -/
def Value.parse (text : String) : Except Error Value :=
  readText text (Raw.value deepest)

/-- A member of an object by its key. -/
def Value.member? (key : String) : Value → Option Value
  | .object members => (members.find? fun m => m.1 == key).map Prod.snd
  | _ => none

end Widgetry.Json
