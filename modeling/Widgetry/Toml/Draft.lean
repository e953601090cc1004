import Widgetry.Toml.Value

/-!
Documents in the making. A table remembers how it came about, because that decides what may still be
added to it: a table with a header of its own is not opened twice and takes no entries through
dotted keys, a table made by a dotted key gets no header, and a table that a longer header passed
through may still get its own header.
-/

namespace Widgetry.Toml

/-- How a table came about. -/
inductive Opening where
  | headed
  | passed
  | dotted
  deriving Repr, DecidableEq

/-- A part of a document in the making. Of the tables under one repeated header only the last one
may still grow. -/
inductive Draft where
  | done (value : Value)
  | table (opening : Opening) (entries : List (String × Draft))
  | tables (done : List Value) (last : List (String × Draft))
  deriving Inhabited

/-- The entries of a table in the making. -/
abbrev Entries := List (String × Draft)

mutual

/-- The value that a draft has become. -/
def Draft.value : Draft → Value
  | .done v => v
  | .table _ es => .table (entryValues es)
  | .tables done last => .array (done ++ [.table (entryValues last)])

/-- The entries that drafts have become. -/
def entryValues : List (String × Draft) → List (String × Value)
  | [] => []
  | (k, d) :: es => (k, d.value) :: entryValues es

end

namespace Entries

/-- Changes the table at a path. Missing tables on the way come about as the given opening says;
dotted keys do not pass through tables with a header. The change is told whether its table has no
header. -/
def change (making : Opening) (f : Bool → Entries → Option Entries) :
    List String → Bool → Entries → Option Entries
  | [], isOpen, es => f isOpen es
  | key :: path, _, es =>
    match lookup? key es with
    | none => do
      let inner ← change making f path true []
      return setEntry key (.table making inner) es
    | some (.done _) => none
    | some (.table opening inner) =>
      if making == .dotted && opening == .headed then none
      else do
        let inner ← change making f path (opening != .headed) inner
        return setEntry key (.table opening inner) es
    | some (.tables done last) => do
      let last ← change making f path false last
      return setEntry key (.tables done last) es

/-- Adds a value under a key of a table. A dotted key adds to tables without a header only, and no
key is given twice. -/
def add (isDottedKey : Bool) (key : String) (v : Value) (isOpen : Bool) (es : Entries) :
    Option Entries :=
  if (!isDottedKey || isOpen) && (lookup? key es).isNone then some (setEntry key (.done v) es)
  else none

/-- Adds a value at a dotted key, seen from a table. -/
def addAt (path : List String) (key : String) (v : Value) (es : Entries) : Option Entries :=
  change .dotted (add (!path.isEmpty) key v) path false es

/-- Opens the table of a header. -/
def openTable (key : String) (_ : Bool) (es : Entries) : Option Entries :=
  match lookup? key es with
  | none => some (setEntry key (.table .headed []) es)
  | some (.table .passed inner) => some (setEntry key (.table .headed inner) es)
  | _ => none

/-- Opens one more table under a repeated header. -/
def openNext (key : String) (_ : Bool) (es : Entries) : Option Entries :=
  match lookup? key es with
  | none => some (setEntry key (.tables [] []) es)
  | some (.tables done last) =>
    some (setEntry key (.tables (done ++ [.table (entryValues last)]) []) es)
  | _ => none

end Entries

end Widgetry.Toml
