/-!
Dictionaries: texts mapped to values, kept in ascending order of the keys by code points. Main
statements: the keys are always strictly ascending, and looking up a key after it was set gives the
value set and no other key another value.
-/

namespace Widgetry

/-- Sets a key in a list that is ascending by its keys. -/
def insertAscending {α : Type} (key : String) (value : α) :
    List (String × α) → List (String × α)
  | [] => [(key, value)]
  | (k, v) :: rest =>
    if key < k then (key, value) :: (k, v) :: rest
    else if key = k then (key, value) :: rest
    else (k, v) :: insertAscending key value rest

/-- Every key of the list is above the given one. -/
def AllAbove {α : Type} (key : String) (entries : List (String × α)) : Prop :=
  ∀ e ∈ entries, key < e.1

/-- Keys in strictly ascending order. -/
def Ascending {α : Type} (entries : List (String × α)) : Prop :=
  entries.Pairwise fun a b => a.1 < b.1

theorem mem_insertAscending {α : Type} {key : String} {value : α} {entries : List (String × α)}
    {e : String × α} (h : e ∈ insertAscending key value entries) :
    e = (key, value) ∨ e ∈ entries := by
  induction entries with
  | nil => simpa [insertAscending] using h
  | cons head rest ih =>
    obtain ⟨k, v⟩ := head
    rw [insertAscending] at h
    split at h
    · simpa using h
    · split at h
      · rcases List.mem_cons.1 h with h | h
        · exact .inl h
        · exact .inr (List.mem_cons_of_mem _ h)
      · rcases List.mem_cons.1 h with h | h
        · exact .inr (h ▸ List.mem_cons_self)
        · rcases ih h with h | h
          · exact .inl h
          · exact .inr (List.mem_cons_of_mem _ h)

theorem lt_of_not_lt_of_ne {a b : String} (h : ¬a < b) (hne : a ≠ b) : b < a := by
  rcases Std.le_total (a := a) (b := b) with h' | h'
  · exact absurd (Std.le_antisymm h' (Std.not_lt.1 h)) hne
  · exact Std.lt_of_le_of_ne h' (Ne.symm hne)

theorem ascending_insertAscending {α : Type} {key : String} {value : α}
    {entries : List (String × α)} (h : Ascending entries) :
    Ascending (insertAscending key value entries) := by
  induction entries with
  | nil => simp [insertAscending, Ascending]
  | cons head rest ih =>
    obtain ⟨k, v⟩ := head
    have hcons := List.pairwise_cons.1 h
    rw [insertAscending]
    split
    · rename_i hlt
      refine List.pairwise_cons.2 ⟨fun e he => ?_, h⟩
      rcases List.mem_cons.1 he with he | he
      · exact he ▸ hlt
      · exact String.lt_trans hlt (hcons.1 e he)
    · split
      · rename_i heq
        exact List.pairwise_cons.2 ⟨fun e he => heq ▸ hcons.1 e he, hcons.2⟩
      · rename_i hlt hne
        refine List.pairwise_cons.2 ⟨fun e he => ?_, ih hcons.2⟩
        rcases mem_insertAscending he with he | he
        · exact he ▸ lt_of_not_lt_of_ne hlt hne
        · exact hcons.1 e he

theorem find?_insertAscending_self {α : Type} (key : String) (value : α)
    (entries : List (String × α)) :
    (insertAscending key value entries).find? (fun e => e.1 == key) = some (key, value) := by
  induction entries with
  | nil => simp [insertAscending]
  | cons head rest ih =>
    obtain ⟨k, v⟩ := head
    rw [insertAscending]
    split
    · simp
    · split
      · simp
      · rename_i hne
        simp [Ne.symm hne, ih]

theorem find?_insertAscending_of_ne {α : Type} {key other : String} (h : other ≠ key) (value : α)
    (entries : List (String × α)) :
    (insertAscending key value entries).find? (fun e => e.1 == other)
      = entries.find? fun e => e.1 == other := by
  induction entries with
  | nil => simp [insertAscending, Ne.symm h]
  | cons head rest ih =>
    obtain ⟨k, v⟩ := head
    rw [insertAscending]
    split
    · simp [Ne.symm h]
    · split
      · rename_i heq
        simp [← heq, Ne.symm h]
      · simp [List.find?_cons, ih]

/-- Texts mapped to values, in ascending order of the keys. -/
structure Dictionary (α : Type) where
  entries : List (String × α)
  ascending : Ascending entries

namespace Dictionary

variable {α β : Type}

instance [DecidableEq α] : DecidableEq (Dictionary α) := fun a b =>
  decidable_of_iff (a.entries = b.entries)
    ⟨fun h => by cases a; cases b; cases h; rfl, fun h => by rw [h]⟩

/-- The dictionary without entries. -/
def empty : Dictionary α := ⟨[], List.Pairwise.nil⟩

instance : EmptyCollection (Dictionary α) := ⟨empty⟩

instance : Inhabited (Dictionary α) := ⟨empty⟩

/-- Sets a key. -/
def insert (d : Dictionary α) (key : String) (value : α) : Dictionary α :=
  ⟨insertAscending key value d.entries, ascending_insertAscending d.ascending⟩

/-- The value of a key. -/
def get? (d : Dictionary α) (key : String) : Option α :=
  (d.entries.find? fun e => e.1 == key).map Prod.snd

@[simp] theorem get?_empty (key : String) : (empty : Dictionary α).get? key = none := rfl

@[simp] theorem get?_insert_self (d : Dictionary α) (key : String) (value : α) :
    (d.insert key value).get? key = some value := by
  simp [get?, insert, find?_insertAscending_self]

theorem get?_insert_of_ne {key other : String} (h : other ≠ key) (d : Dictionary α) (value : α) :
    (d.insert key value).get? other = d.get? other := by
  simp [get?, insert, find?_insertAscending_of_ne h]

/-- Whether there are no entries. -/
def isEmpty (d : Dictionary α) : Bool := d.entries.isEmpty

/-- The keys in ascending order. -/
def keys (d : Dictionary α) : List String := d.entries.map Prod.fst

/-- The dictionary of a list of entries, of which the last of a key counts. -/
def ofList (entries : List (String × α)) : Dictionary α :=
  entries.foldl (fun d e => d.insert e.1 e.2) empty

/-- Applies a function to every value, and drops the entries for which it gives nothing. -/
def filterMap (f : α → Option β) (d : Dictionary α) : Dictionary β :=
  ⟨d.entries.filterMap fun e => (f e.2).map fun b => (e.1, b), by
    refine List.Pairwise.filterMap _ ?_ d.ascending
    intro a b hab c hc e he
    obtain ⟨x, -, rfl⟩ := Option.map_eq_some_iff.1 hc
    obtain ⟨y, -, rfl⟩ := Option.map_eq_some_iff.1 he
    exact hab⟩

end Dictionary

end Widgetry
