import Widgetry.Json.Value

/-!
Values and their trees. The tree of a value can always be passed over, and it is read back as the
value with its members in order, as long as it is not nested deeper than allowed (`value_raw`).

Values are trees with lists of values inside, so a proof over all of them is one induction with a
hypothesis for every item and every member (`Value.induction`).
-/

namespace Widgetry.Json

/-- What goes on from a result had a result. Reading is a chain of such steps: a proof about what
was read peels them off one by one. -/
theorem exists_of_bind_eq_ok {ε α β : Type} {x : Except ε α} {next : α → Except ε β} {b : β}
    (h : (x >>= next) = .ok b) : ∃ a, x = .ok a ∧ next a = .ok b := by
  cases x with
  | error e => cases h
  | ok a => exact ⟨a, rfl, h⟩

@[simp] theorem mapError_ok {ε ε' α : Type} (f : ε → ε') (a : α) :
    (Except.ok a : Except ε α).mapError f = .ok a := rfl

@[simp] theorem mapError_error {ε ε' α : Type} (f : ε → ε') (e : ε) :
    (Except.error e : Except ε α).mapError f = .error (f e) := rfl

/-- What has a result has it too if its errors are renamed. Every step into a tree renames them, so
that they say where they happened. -/
theorem mapError_eq_ok_iff {ε ε' α : Type} {x : Except ε α} {f : ε → ε'} {a : α} :
    x.mapError f = .ok a ↔ x = .ok a := by
  cases x <;> simp

/-- What fails after its errors were renamed failed before, with an error of that name. -/
theorem mapError_eq_error_iff {ε ε' α : Type} {x : Except ε α} {f : ε → ε'} {e' : ε'} :
    x.mapError f = .error e' ↔ ∃ e, x = .error e ∧ f e = e' := by
  cases x <;> simp

/-- A text is read as one value if its tree is, and nothing follows the tree. -/
theorem readText_eq_ok_iff {α : Type} {text : String} {read : Raw → Except Trouble α} {a : α} :
    readText text read = .ok a
      ↔ read (Raw.ofText text).1 = .ok a ∧ (Raw.ofText text).2 = [] := by
  rw [readText, mapError_eq_ok_iff]
  cases read (Raw.ofText text).1 with
  | error t => simp [bind, Except.bind]
  | ok b => cases (Raw.ofText text).2 <;> simp [bind, Except.bind, pure, Except.pure]

/-- What holds of the values without parts, and of an array or object if it holds of its parts,
holds of every value. -/
@[elab_as_elim]
theorem Value.induction {motive : Value → Prop} (null : motive .null)
    (bool : ∀ b, motive (.bool b)) (number : ∀ n, motive (.number n))
    (text : ∀ s, motive (.text s))
    (array : ∀ items, (∀ v ∈ items, motive v) → motive (.array items))
    (object : ∀ members, (∀ m ∈ members, motive m.2) → motive (.object members)) (v : Value) :
    motive v :=
  @Value.rec motive (fun items => ∀ v ∈ items, motive v)
    (fun members => ∀ m ∈ members, motive m.2) (fun m => motive m.2) null bool number text array
    object (fun _ h => nomatch h) (fun _ _ hv hvs => List.forall_mem_cons.2 ⟨hv, hvs⟩)
    (fun _ h => nomatch h) (fun _ _ hm hms => List.forall_mem_cons.2 ⟨hm, hms⟩) (fun _ _ hv => hv)
    v

/-! ## 1. Nesting -/

/-- Items are as deep as the deepest one. -/
theorem nestingOfItems_le_iff {items : List Value} {d : Depth} :
    nestingOfItems items ≤ d ↔ ∀ v ∈ items, v.nesting ≤ d := by
  induction items with
  | nil => simp [nestingOfItems]
  | cons v vs ih => rw [nestingOfItems, Nat.max_le, ih, List.forall_mem_cons]

/-- Members are as deep as the deepest one. -/
theorem nestingOfMembers_le_iff {members : List (String × Value)} {d : Depth} :
    nestingOfMembers members ≤ d ↔ ∀ m ∈ members, m.2.nesting ≤ d := by
  induction members with
  | nil => simp [nestingOfMembers]
  | cons m ms ih => rw [nestingOfMembers, Nat.max_le, ih, List.forall_mem_cons]

/-- An array may be opened if its nesting is allowed, and its items may then be read. -/
theorem exists_of_nesting_array_le {items : List Value} {d : Depth}
    (h : (Value.array items).nesting ≤ d) :
    ∃ d', d = d' + 1 ∧ ∀ v ∈ items, v.nesting ≤ d' := by
  rw [Value.nesting] at h
  cases d with
  | zero => exact absurd h (Nat.not_succ_le_zero _)
  | succ d' => exact ⟨d', rfl, nestingOfItems_le_iff.1 (Nat.le_of_succ_le_succ h)⟩

/-- An object may be opened if its nesting is allowed, and its members may then be read. -/
theorem exists_of_nesting_object_le {members : List (String × Value)} {d : Depth}
    (h : (Value.object members).nesting ≤ d) :
    ∃ d', d = d' + 1 ∧ ∀ m ∈ members, m.2.nesting ≤ d' := by
  rw [Value.nesting] at h
  cases d with
  | zero => exact absurd h (Nat.not_succ_le_zero _)
  | succ d' => exact ⟨d', rfl, nestingOfMembers_le_iff.1 (Nat.le_of_succ_le_succ h)⟩

/-! ## 2. Trees of values -/

@[simp] theorem rawItems_nil : rawItems [] = .closed := rfl

@[simp] theorem rawItems_cons (v : Value) (vs : List Value) :
    rawItems (v :: vs) = .cons v.raw (rawItems vs) := rfl

@[simp] theorem rawMembers_nil : rawMembers [] = .closed := rfl

@[simp] theorem rawMembers_cons (m : String × Value) (ms : List (String × Value)) :
    rawMembers (m :: ms) = .cons (.ok m.1) m.2.raw (rawMembers ms) := rfl

/-- The tree of a value can be passed over. -/
@[simp] theorem skip_raw (v : Value) : v.raw.skip = .ok () := by
  induction v using Value.induction with
  | null => rfl
  | bool b => rfl
  | number n => rfl
  | text s => rfl
  | array items ih =>
    rw [Value.raw, Raw.skip]
    induction items with
    | nil => rfl
    | cons v vs ihs =>
      rw [rawItems_cons, Items.skip, ih v List.mem_cons_self]
      exact mapError_eq_ok_iff.2 (ihs fun w hw => ih w (List.mem_cons_of_mem _ hw))
  | object members ih =>
    rw [Value.raw, Raw.skip]
    induction members with
    | nil => rfl
    | cons m ms ihs =>
      rw [rawMembers_cons, Members.skip, ih m List.mem_cons_self]
      exact mapError_eq_ok_iff.2 (ihs fun w hw => ih w (List.mem_cons_of_mem _ hw))

/-- The tree of a value is read back as the value with its members in order. -/
theorem value_raw {v : Value} {d : Depth} (h : v.nesting ≤ d) : v.raw.value d = .ok v.sorted := by
  induction v using Value.induction generalizing d with
  | null => rfl
  | bool b => rfl
  | number n => rfl
  | text s => rfl
  | array items ih =>
    obtain ⟨d, rfl, hitems⟩ := exists_of_nesting_array_le h
    have hvalues : (rawItems items).values d = .ok (sortedItems items) := by
      -- the items are counted down here, so the bound on the whole value has to go
      clear h
      induction items with
      | nil => rfl
      | cons v vs ihs =>
        rw [List.forall_mem_cons] at ih hitems
        rw [rawItems_cons, Items.values, ih.1 hitems.1, ihs ih.2 hitems.2]
        rfl
    rw [Value.raw, Raw.value, Depth.enter]
    simp only [bind, Except.bind, hvalues]
    rfl
  | object members ih =>
    obtain ⟨d, rfl, hmembers⟩ := exists_of_nesting_object_le h
    have hvalues (done : List (String × Value)) :
        (rawMembers members).values d done = .ok (sortedMembers members done) := by
      clear h
      induction members generalizing done with
      | nil => rfl
      | cons m ms ihs =>
        rw [List.forall_mem_cons] at ih hmembers
        rw [rawMembers_cons, Members.values, ih.1 hmembers.1]
        exact mapError_eq_ok_iff.2 (ihs ih.2 hmembers.2 _)
    rw [Value.raw, Raw.value, Depth.enter]
    simp only [bind, Except.bind, hvalues]
    rfl

/-! ## 3. What holds everywhere in a value -/

/-- The values right inside a value. -/
def Value.parts : Value → List Value
  | .array items => items
  | .object members => members.map Prod.snd
  | _ => []

/-- What holds of a value and of everything inside it. -/
inductive Value.Everywhere (P : Value → Prop) : Value → Prop where
  | intro {v : Value} (here : P v) (inside : ∀ w ∈ v.parts, Everywhere P w) : Everywhere P v

namespace Value

variable {P : Value → Prop}

/-- What holds everywhere in a value holds of it and everywhere in its parts. -/
theorem everywhere_iff {v : Value} : v.Everywhere P ↔ P v ∧ ∀ w ∈ v.parts, w.Everywhere P :=
  ⟨fun ⟨here, inside⟩ => ⟨here, inside⟩, fun h => .intro h.1 h.2⟩

/-- In a value without parts there is only the value. -/
theorem everywhere_iff_of_parts_eq_nil {v : Value} (h : v.parts = []) :
    v.Everywhere P ↔ P v := by
  rw [everywhere_iff, h]
  simp

@[simp] theorem everywhere_null : null.Everywhere P ↔ P null :=
  everywhere_iff_of_parts_eq_nil rfl

@[simp] theorem everywhere_bool (b : Bool) : (bool b).Everywhere P ↔ P (bool b) :=
  everywhere_iff_of_parts_eq_nil rfl

@[simp] theorem everywhere_number (n : Number) : (number n).Everywhere P ↔ P (number n) :=
  everywhere_iff_of_parts_eq_nil rfl

@[simp] theorem everywhere_text (s : String) : (text s).Everywhere P ↔ P (text s) :=
  everywhere_iff_of_parts_eq_nil rfl

@[simp] theorem everywhere_array (vs : List Value) :
    (array vs).Everywhere P ↔ P (array vs) ∧ ∀ v ∈ vs, v.Everywhere P :=
  everywhere_iff

@[simp] theorem everywhere_object (ms : List (String × Value)) :
    (object ms).Everywhere P ↔ P (object ms) ∧ ∀ m ∈ ms, m.2.Everywhere P := by
  rw [everywhere_iff, parts, List.forall_mem_map]

/-- What holds everywhere holds here. -/
theorem Everywhere.here {v : Value} (h : v.Everywhere P) : P v := (everywhere_iff.1 h).1

end Value

/-- Whether the keys of a value that is an object differ. -/
def Value.DistinctKeysHere : Value → Prop
  | .object members => (members.map Prod.fst).Nodup
  | _ => True

/-- Whether no object in a value repeats a key. -/
def Value.DistinctKeys (v : Value) : Prop := v.Everywhere DistinctKeysHere

end Widgetry.Json
