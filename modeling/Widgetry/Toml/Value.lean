import Widgetry.Decimal.Binary

/-!
Documents of settings: tables of named values, nested at will. The same values carry what a settings
file says and what variables of the environment say, and one value is put on another one table by
table.
-/

namespace Widgetry.Toml

/-- A value of a document. Dates and times are kept as their text. A gap stands where an array or a
table has a place of which nothing is said. -/
inductive Value where
  | text (s : String)
  | integer (i : Int)
  | float (x : Decimal.Binary)
  | boolean (b : Bool)
  | moment (s : String)
  | array (items : List Value)
  | table (entries : List (String × Value))
  | gap
  deriving Repr, Inhabited

/-- The value of a key in a list of entries. -/
def lookup? {α : Type} (key : String) : List (String × α) → Option α
  | [] => none
  | (k, v) :: rest => if k = key then some v else lookup? key rest

/-- Sets a key in a list of entries, at its place if it is there, else at the end. -/
def setEntry {α : Type} (key : String) (value : α) : List (String × α) → List (String × α)
  | [] => [(key, value)]
  | (k, v) :: rest => if k = key then (key, value) :: rest else (k, v) :: setEntry key value rest

theorem lookup?_setEntry_self {α : Type} (key : String) (value : α) (es : List (String × α)) :
    lookup? key (setEntry key value es) = some value := by
  induction es with
  | nil => simp [setEntry, lookup?]
  | cons e rest ih =>
    obtain ⟨k, v⟩ := e
    by_cases h : k = key <;> simp [setEntry, lookup?, h, ih]

theorem lookup?_setEntry_of_ne {α : Type} {key other : String} (h : other ≠ key) (value : α)
    (es : List (String × α)) : lookup? other (setEntry key value es) = lookup? other es := by
  induction es with
  | nil => simp [setEntry, lookup?, Ne.symm h]
  | cons e rest ih =>
    obtain ⟨k, v⟩ := e
    by_cases hk : k = key
    · simp [setEntry, lookup?, hk, Ne.symm h]
    · simp [setEntry, lookup?, hk, ih]

namespace Value

/-- The entries of a table; other values have none. -/
def entries : Value → List (String × Value)
  | .table es => es
  | _ => []

@[simp] theorem entries_table (es : List (String × Value)) : (Value.table es).entries = es := rfl

/-- The items of an array; other values have none. -/
def items : Value → List Value
  | .array items => items
  | _ => []

/-- The value at a path of keys. -/
def get? : Value → List String → Option Value
  | v, [] => some v
  | v, key :: rest =>
    match lookup? key v.entries with
    | some inner => inner.get? rest
    | none => none

mutual

/-- What becomes of a value when another one is put on it: the entries of a table are put on key by
key, everything else takes its place. -/
def merge (old : Value) : Value → Value
  | .table es => .table (mergeEntries old.entries es)
  | new => new

/-- What becomes of entries when others are put on them. -/
def mergeEntries (old : List (String × Value)) : List (String × Value) → List (String × Value)
  | [] => old
  | (key, new) :: rest =>
    mergeEntries (setEntry key (merge ((lookup? key old).getD .gap) new) old) rest

end

/-- Whether a value is a table. -/
def isTable : Value → Bool
  | .table _ => true
  | _ => false

theorem merge_of_not_table {old new : Value} (h : new.isTable = false) : old.merge new = new := by
  cases new <;> simp_all [merge, isTable]

mutual

/-- Whether every integer of a value fits into 64 bits with sign. -/
def fitsInteger : Value → Bool
  | .integer i => Decimal.fitsSigned 64 i
  | .array items => allFit items
  | .table es => entriesFit es
  | _ => true

/-- Whether every integer of a list fits. -/
def allFit : List Value → Bool
  | [] => true
  | v :: vs => v.fitsInteger && allFit vs

/-- Whether every integer of a table fits. -/
def entriesFit : List (String × Value) → Bool
  | [] => true
  | (_, v) :: es => v.fitsInteger && entriesFit es

end

end Value

end Widgetry.Toml
