import Widgetry.Json.Token

/-!
The tree of a document as far as its text can be read. Whoever walks the tree meets values and
faults in the order of the text, and decides value by value what is kept and what is only passed
over: text with half a surrogate pair and numbers out of range are faults of kept values only, and
some faults have another name where nothing is kept.

The tree is read by a machine with a stack: a state says what may come next, a frame holds what an
open array or object has collected so far. One token is one step, so reading follows the token list.
-/

namespace Widgetry.Json

mutual

/-- A value as it was read. -/
inductive Raw where
  | null
  | bool (b : Bool)
  | number (value : Except Fault Number)
  | text (content : Except Fault String)
  | array (items : Items)
  | object (members : Members)
  | broken (kept skipped : Fault)

/-- The items of an array, up to its end or to a fault where an item, a comma or the end is wanted.
-/
inductive Items where
  | closed
  | stopped (kept skipped : Fault)
  | cons (item : Raw) (rest : Items)

/-- The members of an object, up to its end or to a fault where a key, a comma or the end is wanted.
-/
inductive Members where
  | closed
  | stopped (kept skipped : Fault)
  | cons (key : Except Fault String) (value : Raw) (rest : Members)

end

/-- Items in front of others, the last of them first. -/
def Items.prependReverse : List Raw → Items → Items
  | [], tail => tail
  | x :: xs, tail => prependReverse xs (.cons x tail)

/-- A key and a value that were read. The key may hold half of a surrogate pair. -/
abbrev RawMember := Except Fault String × Raw

/-- Members in front of others, the last of them first. -/
def Members.prependReverse : List RawMember → Members → Members
  | [], tail => tail
  | (k, v) :: ms, tail => prependReverse ms (.cons k v tail)

/-! ## 1. The machine -/

/-- An open array or object around the value being read, its items or members last first. -/
inductive Frame where
  | array (done : List Raw)
  | object (done : List RawMember) (key : Except Fault String)

/-- What may come next. -/
inductive State where
  | value
  | firstItem
  | nextItem (done : List Raw)
  | afterItem (done : List Raw)
  | firstKey
  | nextKey (done : List RawMember)
  | colon (done : List RawMember) (key : Except Fault String)
  | afterMember (done : List RawMember)

/-- A value inside its frames, which nothing follows any more. -/
def plug (v : Raw) : List Frame → Raw
  | [] => v
  | .array done :: stack =>
    let f := Flaw.endInArray.ending
    plug (.array (Items.prependReverse done (.cons v (.stopped f f)))) stack
  | .object done key :: stack =>
    let f := Flaw.endInObject.ending
    plug (.object (Members.prependReverse done (.cons key v (.stopped f f)))) stack

/-- The tree when the text fails in a state. -/
def State.halt (kept skipped : Fault) (stack : List Frame) : State → Raw
  | .value => plug (.broken kept skipped) stack
  | .firstItem => plug (.array (.stopped kept skipped)) stack
  | .nextItem done | .afterItem done =>
    plug (.array (Items.prependReverse done (.stopped kept skipped))) stack
  | .firstKey => plug (.object (.stopped kept skipped)) stack
  | .nextKey done | .afterMember done =>
    plug (.object (Members.prependReverse done (.stopped kept skipped))) stack
  | .colon done key => plug (.broken kept skipped) (.object done key :: stack)

/-- The tree when the text ends in a state. Behind a comma the end is missed where the next value
begins; whoever only passes over an object misses its end. -/
def State.ended (stack : List Frame) (st : State) : Raw :=
  let halt (kept skipped : Flaw) := st.halt kept.ending skipped.ending stack
  match st with
  | .value | .nextItem _ => halt .endInValue .endInValue
  | .firstItem | .afterItem _ => halt .endInArray .endInArray
  | .nextKey _ => halt .endInValue .endInObject
  | .firstKey | .colon .. | .afterMember _ => halt .endInObject .endInObject

/-- The outcome of a step: go on, a whole value, or a tree that a fault cut off. -/
inductive Step where
  | more (state : State) (stack : List Frame)
  | done (value : Raw)
  | halted (value : Raw)

/-- Hands a finished value to the frame around it. -/
def finish (v : Raw) : List Frame → Step
  | [] => .done v
  | .array done :: stack => .more (.afterItem (v :: done)) stack
  | .object done key :: stack => .more (.afterMember ((key, v) :: done)) stack

/-- A step where a value must come. -/
def stepValue (stack : List Frame) : Token → Step
  | .openArray => .more .firstItem stack
  | .openObject => .more .firstKey stack
  | .null => finish .null stack
  | .bool b => finish (.bool b) stack
  | .number n => finish (.number n) stack
  | .text s => finish (.text s) stack
  | .broken kept skipped => .halted (plug (.broken kept skipped) stack)
  | .brokenText kept skipped => .halted (plug (.broken kept skipped) stack)
  | _ => .halted (plug (.broken Flaw.noValue.here Flaw.noValue.here) stack)

/-- A step where a key must come. -/
def stepKey (stack : List Frame) (done : List RawMember) : Token → Step
  | .text key => .more (.colon done key) stack
  | .brokenText kept skipped => .halted ((State.nextKey done).halt kept skipped stack)
  | _ => .halted ((State.nextKey done).halt Flaw.keyNotText.here Flaw.keyNotText.here stack)

/-- A step where neither a comma nor what closes the array or object comes. -/
def State.misplaced (stack : List Frame) (wanted : Flaw) (st : State) : Step :=
  .halted (st.halt wanted.between wanted.between stack)

/-- One step of the machine. A comma before the end is named as such only where values are kept. -/
def State.step (stack : List Frame) : State → Token → Step
  | .value, t => stepValue stack t
  | .firstItem, .closeArray => finish (.array .closed) stack
  | .firstItem, t => stepValue (.array [] :: stack) t
  | .nextItem done, .closeArray =>
    .halted ((State.nextItem done).halt Flaw.trailingComma.here Flaw.noValue.here stack)
  | .nextItem done, t => stepValue (.array done :: stack) t
  | .afterItem done, .comma => .more (.nextItem done) stack
  | .afterItem done, .closeArray => finish (.array (Items.prependReverse done .closed)) stack
  | .afterItem done, _ => (State.afterItem done).misplaced stack .noArrayEnd
  | .firstKey, .closeObject => finish (.object .closed) stack
  | .firstKey, t => stepKey stack [] t
  | .nextKey done, .closeObject =>
    .halted ((State.nextKey done).halt Flaw.trailingComma.here Flaw.keyNotText.here stack)
  | .nextKey done, t => stepKey stack done t
  | .colon done key, .colon => .more .value (.object done key :: stack)
  | .colon done key, _ => (State.colon done key).misplaced stack .noColon
  | .afterMember done, .comma => .more (.nextKey done) stack
  | .afterMember done, .closeObject =>
    finish (.object (Members.prependReverse done .closed)) stack
  | .afterMember done, _ => (State.afterMember done).misplaced stack .noObjectEnd

/-- Runs the machine to the end of one value, and returns the tokens after it. -/
def run (st : State) (stack : List Frame) : List Token → Raw × List Token
  | [] => (st.ended stack, [])
  | t :: ts =>
    match st.step stack t with
    | .more st stack => run st stack ts
    | .done v => (v, ts)
    | .halted v => (v, [])

/-- The first value of a text, and the tokens after it. -/
def Raw.ofText (text : String) : Raw × List Token :=
  run .value [] (tokens text.toList)

/-! ## 2. Passing over -/

mutual

/-- Whether a value that is not kept is well-formed. -/
def Raw.skip : Raw → Except Trouble Unit
  | .array items => items.skip
  | .object members => members.skip
  | .broken _ skipped => .error (.fault skipped)
  | _ => .ok ()

/-- Whether items that are not kept are well-formed. -/
def Items.skip : Items → Except Trouble Unit
  | .closed => .ok ()
  | .stopped _ skipped => .error (.stopped skipped)
  | .cons item rest =>
    match item.skip with
    | .ok () => rest.skip.mapError .later
    | .error t => .error (.item t)

/-- Whether members that are not kept are well-formed. -/
def Members.skip : Members → Except Trouble Unit
  | .closed => .ok ()
  | .stopped _ skipped => .error (.stopped skipped)
  | .cons _ value rest =>
    match value.skip with
    | .ok () => rest.skip.mapError .later
    | .error t => .error (.item t)

end

/-! ## 3. Tokens of a tree

The tokens of the parts of a tree are counted up to the one that a fault cut off. -/

mutual

/-- The number of tokens of a value. -/
def Raw.width : Raw → Nat
  | .array .closed | .object .closed => 2
  | .array items => items.width + 1
  | .object members => members.width + 1
  | _ => 1

/-- The number of tokens of items, each with the comma or bracket behind it. -/
def Items.width : Items → Nat
  | .cons item rest => item.width + 1 + rest.width
  | _ => 0

/-- The number of tokens of members, each with its colon and the comma or bracket behind it. -/
def Members.width : Members → Nat
  | .cons _ value rest => value.width + 3 + rest.width
  | _ => 0

end

end Widgetry.Json
