import Widgetry.Json.Printer

/-!
Decoders: what a program wants to see in a document. A decoder walks a tree and stops at the first
problem in the order of the text. A record is read either from an object, whose members may come in
any order, or from an array of its fields in their declared order.
-/

namespace Widgetry.Json

/-- Where a tree comes from: from the text in one pass, or from a value that was read before. The
two differ in what they say of an array with too many fields for its record. -/
inductive Origin where
  | text
  | value
  deriving Repr, DecidableEq

/-- A decoder of trees at a depth. -/
abbrev Decoder (α : Type) := Origin → Depth → Raw → Except Trouble α

/-- The trouble with a value that is not of the wanted type; the value has to be readable. -/
def Raw.wrongType (expected : String) : Raw → Trouble
  | .null => .mismatch (.wrongType .null expected)
  | .bool b => .mismatch (.wrongType (.bool b) expected)
  | .number (.ok n) => .mismatch (.wrongType (.number n) expected)
  | .number (.error f) => .fault f
  | .text (.ok s) => .mismatch (.wrongType (.text s) expected)
  | .text (.error f) => .fault f
  | .array _ => .mismatch (.wrongType .array expected)
  | .object _ => .mismatch (.wrongType .object expected)
  | .broken kept _ => .fault kept

namespace Decoder

/-- Keeps any value. -/
def value : Decoder Value := fun _ d r => r.value d

/-- Reads any value as text, nothing for null. -/
def scalar : Decoder (Option String) := fun _ d r => do
  return (← r.value d).asText

/-- Reads any value as text, the empty text for null. -/
def lenientText : Decoder String := fun o d r => do
  return (← scalar o d r).getD ""

/-- Reads text. -/
def text : Decoder String := fun _ _ r =>
  match r with
  | .text (.ok s) => .ok s
  | r => .error (r.wrongType "a string")

/-- Reads null as none. -/
def nullable {α : Type} (read : Decoder α) : Decoder (Option α) := fun o d r =>
  match r with
  | .null => .ok none
  | r => (read o d r).map some

/-- Reads null as a default. -/
def orDefault {α : Type} (default : α) (read : Decoder α) : Decoder α := fun o d r => do
  return (← nullable read o d r).getD default

/-- Reads every item of an array. -/
def items {α : Type} (read : Raw → Except Trouble α) : Items → Except Trouble (List α)
  | .closed => .ok []
  | .stopped kept _ => .error (.stopped kept)
  | .cons item rest => do
    let a ← (read item).mapError .item
    return a :: (← (items read rest).mapError .later)

/-- Reads an array. -/
def list {α : Type} (read : Decoder α) : Decoder (List α) := fun o d r =>
  match r with
  | .array xs => do items (read o (← d.enter)) xs
  | r => .error (r.wrongType "a sequence")

/-- Reads the members of an object into a dictionary; the last member of a key counts. -/
def members {α : Type} (read : Raw → Except Trouble α) :
    Members → Dictionary α → Except Trouble (Dictionary α)
  | .closed, done => .ok done
  | .stopped kept _, _ => .error (.stopped kept)
  | .cons (.error f) _ _, _ => .error (.key f)
  | .cons (.ok key) v rest, done => do
    let a ← (read v).mapError (.member key)
    (members read rest (done.insert key a)).mapError .later

/-- Reads an object with arbitrary keys. -/
def map {α : Type} (read : Decoder α) : Decoder (Dictionary α) := fun o d r =>
  match r with
  | .object ms => do members (read o (← d.enter)) ms .empty
  | r => .error (r.wrongType "a map")

/-- Reads a natural number below a bound. -/
def natural (bound : Nat) (expected : String) : Decoder Nat := fun _ _ r =>
  match r with
  | .number (.ok (.int i)) =>
    if 0 ≤ i && i < bound then .ok i.toNat
    else .error (.mismatch (.wrongValue (.number (.int i)) expected))
  | r => .error (r.wrongType expected)

/-- Reads a number as the nearest one of 32 bits. -/
def single : Decoder Decimal.Binary := fun _ _ r =>
  match r with
  | .number (.ok (.int i)) => .ok (Decimal.single.round (i < 0) i.natAbs 1)
  | .number (.ok (.real _ x)) => .ok (x.convert Decimal.single)
  | r => .error (r.wrongType "f32")

end Decoder

/-! ## Records -/

/-- A field of a record that is being read: its name, whether it has been read already, and how its
value is read. -/
structure RecordField (σ : Type) where
  name : String
  filled : σ → Bool
  read : Decoder (σ → σ)

/-- A kind of record: its name in messages, its fields in declared order, and how a record is made
of the fields read, unless one without default is missing. -/
structure RecordKind (σ ρ : Type) where
  name : String
  fields : List (RecordField σ)
  start : σ
  complete : σ → Except String ρ

/-- A field that is kept in an optional slot. -/
def RecordField.slot {σ α : Type} (name : String) (get : σ → Option α) (set : Option α → σ → σ)
    (read : Decoder α) : RecordField σ :=
  ⟨name, fun s => (get s).isSome, fun o d r => (read o d r).map fun a => set (some a)⟩

/-- A slot whose field has no default. -/
def required {α : Type} (name : String) : Option α → Except String α
  | some a => .ok a
  | none => .error name

/-- The number of items of an array. -/
def Items.length : Items → Nat
  | .cons _ rest => rest.length + 1
  | _ => 0

namespace RecordKind

variable {σ ρ : Type}

/-- Reads the members of an object; unknown ones are passed over, known ones may come once. -/
def readMembers (fields : List (RecordField σ)) (o : Origin) (d : Depth) :
    Members → σ → Except Trouble σ
  | .closed, s => .ok s
  | .stopped kept _, _ => .error (.stopped kept)
  | .cons (.error f) _ _, _ => .error (.key f)
  | .cons (.ok key) v rest, s =>
    match fields.find? fun f => f.name == key with
    | none =>
      match v.skip with
      | .ok () => (readMembers fields o d rest s).mapError .later
      | .error t => .error (.unread key t)
    | some field =>
      if field.filled s then .error (.repeated key)
      else
        match field.read o d v with
        | .ok put => (readMembers fields o d rest (put s)).mapError .later
        | .error t => .error (.member key t)

/-- Reads fields from the items of an array, and returns what is left of it. -/
def readItems (o : Origin) (d : Depth) :
    List (RecordField σ) → Items → σ → Except Trouble (σ × Items)
  | [], rest, s => .ok (s, rest)
  | _ :: _, .closed, s => .ok (s, .closed)
  | _ :: _, .stopped kept _, _ => .error (.stopped kept)
  | field :: fields, .cons item rest, s =>
    match field.read o d item with
    | .ok put => (readItems o d fields rest (put s)).mapError .later
    | .error t => .error (.item t)

/-- What an array of the record's fields is called in messages. -/
def lengthExpectation (k : RecordKind σ ρ) : String :=
  "struct " ++ k.name ++ " with " ++ toString k.fields.length
    ++ (if k.fields.length == 1 then " element" else " elements")

/-- The place of a field in its record. -/
def position (k : RecordKind σ ρ) (name : String) : Nat :=
  k.fields.findIdx fun f => f.name == name

/-- A fault where an array has to end: only that it ends early, or with a comma, is named as such.
-/
def endFault (f : Fault) : Fault :=
  match f.flaw with
  | .noArrayEnd | .endInValue => { f with flaw := .trailingCharacters }
  | _ => f

/-- An array must end with the last field. -/
def checkEnd (o : Origin) (fields : Nat) (all : Items) : Items → Except Trouble Unit
  | .closed => .ok ()
  | .stopped kept _ => .error (.behind (.stopped (endFault kept)) fields)
  | .cons _ _ =>
    match o with
    | .text => .error (.behind (.stopped Flaw.trailingCharacters.here) fields)
    | .value => .error (.mismatch (.wrongLength all.length "fewer elements in array"))

/-- Reads a record. -/
def decoder (k : RecordKind σ ρ) : Decoder ρ := fun o d r =>
  match r with
  | .object ms => do
    let d ← d.enter
    let s ← readMembers k.fields o d ms k.start
    match k.complete s with
    | .ok a => return a
    | .error name => .error (.mismatch (.missingField name))
  | .array xs => do
    let d ← d.enter
    let (s, rest) ← readItems o d k.fields xs k.start
    match k.complete s with
    | .ok a =>
      checkEnd o k.fields.length xs rest
      return a
    | .error name => .error (.mismatch (.wrongLength (k.position name) k.lengthExpectation))
  | r => .error (r.wrongType ("struct " ++ k.name))

end RecordKind

/-! ## Texts and values -/

/-- Decodes a whole text in one pass. -/
def Decoder.ofText {α : Type} (read : Decoder α) (text : String) : Except Error α :=
  readText text (read .text deepest)

/-- Decodes a value. It may be nested as deep as it is, for it was read before. -/
def Decoder.ofValue {α : Type} (read : Decoder α) (v : Value) : Except Error α :=
  (read .value v.nesting v.raw).mapError Trouble.bare

end Widgetry.Json
