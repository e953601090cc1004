import Widgetry.Proofs.Json.Record

/-!
Records that are written in declared order. An object that has, for each field of a record, a member
or none (`written`) is read value by value (`decoder_written_eq_ok`): no key is met twice, and every
field finds what was written for it.

The members of a written record come in declared order, with gaps where a field was left out. So it
is no longer read like any object: that each field finds its own member is seen from the order
alone, and what is left to show of a record is one equation per field (`readOptional`).
-/

namespace Widgetry.Json

variable {σ ρ : Type} {o : Origin} {d : Depth}

/-- A member that is written when its value is there. -/
def member (name : String) (v : Option Value) : List (String × Value) :=
  v.toList.map fun v => (name, v)

/-- The members of an object that has values for some of the names. -/
def written : List String → List (Option Value) → List (String × Value)
  | name :: names, v :: values => member name v ++ written names values
  | _, _ => []

theorem keys_written_sublist (names : List String) (values : List (Option Value)) :
    ((written names values).map Prod.fst).Sublist names := by
  fun_induction written names values with
  | case1 name names v values ih =>
    rw [List.map_append, ← List.singleton_append]
    refine List.Sublist.append ?_ ih
    cases v <;> simp [member]
  | case2 => exact List.nil_sublist _

theorem mem_values_of_mem_written {names : List String} {values : List (Option Value)}
    {m : String × Value} (h : m ∈ written names values) : some m.2 ∈ values := by
  fun_induction written names values with
  | case1 name names v values ih =>
    rcases List.mem_append.1 h with h | h
    · obtain ⟨w, hw, rfl⟩ := List.mem_map.1 h
      exact List.mem_cons.2 (.inl (Option.mem_toList.1 hw).symm)
    · exact List.mem_cons_of_mem _ (ih h)
  | case2 => exact absurd h List.not_mem_nil

/-- Reads values that are there for fields, in declared order. -/
def readValues (o : Origin) (d : Depth) :
    List (RecordField σ) → List (Option Value) → σ → Except Trouble σ
  | f :: fields, v :: values, s =>
    match v with
    | none => readValues o d fields values s
    | some v =>
      match f.read o d v.raw with
      | .ok put => readValues o d fields values (put s)
      | .error e => .error e
  | _, _, s => .ok s

/-- Every field finds what was written for it. -/
theorem gather_written {fields : List (RecordField σ)} (h : Independent fields)
    (values : List (Option Value)) (s : σ) :
    gather o d (look (written (fields.map (·.name)) values)) fields s
      = readValues o d fields values s := by
  induction fields generalizing values s with
  | nil => rfl
  | cons f fields ih =>
    have hne : ∀ g ∈ fields, f.name ≠ g.name := fun g hg =>
      ((List.pairwise_cons.1 h.apart).1 g hg).name_ne
    cases values with
    | nil => exact gather_of_none fun g _ => look_nil g.name
    | cons v values =>
      cases v with
      | none =>
        have hnone : look (written (fields.map (·.name)) values) f.name = none := by
          refine look_eq_none fun hmem => ?_
          obtain ⟨g, hg, hname⟩ :=
            List.mem_map.1 ((keys_written_sublist _ values).subset hmem)
          exact hne g hg hname.symm
        exact (gather_cons_of_none hnone).trans (ih h.of_cons values s)
      | some v =>
        have hrest : ∀ g ∈ fields,
            look ((f.name, v) :: written (fields.map (·.name)) values) g.name
              = look (written (fields.map (·.name)) values) g.name :=
          fun g hg => look_cons_of_ne (hne g hg) _
        change gather o d (look ((f.name, v) :: written (fields.map (·.name)) values)) _ s = _
        rw [gather, look_cons_self, readValues]
        dsimp only
        cases f.read o d v.raw with
        | error e => rfl
        | ok put => exact (gather_congr hrest).trans (ih h.of_cons values (put s))

/-- A record that is written in declared order is read value by value. -/
theorem RecordKind.decoder_written_eq_ok {k : RecordKind σ ρ} (hk : k.Sound)
    {values : List (Option Value)} {s : σ} {a : ρ}
    (hread : readValues o d k.fields values k.start = .ok s) (ha : k.complete s = .ok a) :
    k.decoder o (d + 1) (Value.object (written (k.fields.map (·.name)) values)).raw = .ok a := by
  rw [decoder_object_eq_ok_iff hk (hk.nodup_names.sublist (keys_written_sublist _ values))]
  exact ⟨s, (gather_written hk.independent values k.start).trans hread, ha⟩

/-! ## Slots -/

/-- What a decoder makes of a value that may be there. -/
def readOptional {α : Type} (read : Decoder α) (o : Origin) (d : Depth) :
    Option Value → Except Trouble (Option α)
  | none => .ok none
  | some v => (read o d v.raw).map some

theorem readOptional_some {α : Type} {read : Decoder α} {v : Value} {a : α}
    (h : read o d v.raw = .ok a) : readOptional read o d (some v) = .ok (some a) := by
  rw [readOptional, h]
  rfl

/-- A slot that is not filled yet is set to what its decoder makes of the value. -/
theorem readValues_slot {α : Type} {name : String} {get : σ → Option α} {set : Option α → σ → σ}
    {read : Decoder α} {fields : List (RecordField σ)} {v : Option Value}
    {values : List (Option Value)} {a : Option α} {s s' : σ}
    (hread : readOptional read o d v = .ok a) (hs : set none s = s)
    (h : readValues o d fields values (set a s) = .ok s') :
    readValues o d (.slot name get set read :: fields) (v :: values) s = .ok s' := by
  cases v with
  | none =>
    obtain rfl : none = a := by simpa [readOptional] using hread
    rw [hs] at h
    exact h
  | some v =>
    cases hv : read o d v.raw with
    | error e => simp [readOptional, hv, Except.map] at hread
    | ok b =>
      obtain rfl : some b = a := by simpa [readOptional, hv, Except.map] using hread
      simpa [readValues, RecordField.slot, hv, Except.map] using h

end Widgetry.Json
