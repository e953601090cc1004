import Widgetry.Json.Decode
import Widgetry.Proofs.Json.Value

/-!
Records are read field by field. A record whose fields keep to slots of their own (`Independent`)
is read from an object as its fields find their members there, whatever the order of the members and
whatever other members there are (`decoder_object_eq_ok_iff`), and from an array as from an object
that has the items under the names of the fields (`decoder_array_eq_ok_iff`).

So all that is left of a record is its fields and a look-up (`gather`). A look-up is accepted if
every field accepts what it finds (`exists_gather_eq_ok_iff`), and finding another value under one
name changes what was read by one assignment (`gather_eq_ok_iff_of_agree`).

That fields are independent is never shown field by field. What is read of a record is kept in
slots, one for each field, and a field fills its own slot and no other: a list of fields says so by
the way it is put together (`Fills`). So a record is sound if its fields have different names and
nothing is in its slots to begin with (`RecordKind.sound_of_slots`), and each record of the library
is one instance of this.
-/

namespace Widgetry.Json

variable {σ ρ : Type}

/-! ## 1. Independent fields -/

namespace RecordField

/-- An assignment that a field can read. -/
def Puts (f : RecordField σ) (put : σ → σ) : Prop :=
  ∃ o d r, f.read o d r = .ok put

/-- A field that fills its slot, and of which the last value counts. -/
structure Sound (f : RecordField σ) : Prop where
  filled : ∀ {p}, f.Puts p → ∀ s, f.filled (p s) = true
  overwrite : ∀ {p q}, f.Puts p → f.Puts q → ∀ s, p (q s) = p s

/-- Two fields with different names and different slots. -/
structure Apart (f g : RecordField σ) : Prop where
  name_ne : f.name ≠ g.name
  comm : ∀ {p q}, f.Puts p → g.Puts q → ∀ s, p (q s) = q (p s)
  filled : ∀ {q}, g.Puts q → ∀ s, f.filled (q s) = f.filled s
  filled' : ∀ {p}, f.Puts p → ∀ s, g.filled (p s) = g.filled s

/-- Being apart goes both ways. -/
theorem Apart.symm {f g : RecordField σ} (h : f.Apart g) : g.Apart f where
  name_ne := h.name_ne.symm
  comm hp hq s := (h.comm hq hp s).symm
  filled := h.filled'
  filled' := h.filled

/-- An assignment of a slot sets it to what was read. -/
theorem exists_of_puts_slot {α : Type} {name : String} {get : σ → Option α}
    {set : Option α → σ → σ} {read : Decoder α} {p : σ → σ}
    (h : (slot name get set read).Puts p) :
    ∃ o d r a, read o d r = .ok a ∧ p = set (some a) := by
  obtain ⟨o, d, r, hr⟩ := h
  rw [slot] at hr
  dsimp only at hr
  cases hread : read o d r with
  | error e => simp [hread, Except.map] at hr
  | ok a =>
    rw [hread] at hr
    exact ⟨o, d, r, a, hread, (Except.ok.inj hr).symm⟩

/-- A slot takes what its decoder reads. -/
theorem read_slot {α : Type} {name : String} {get : σ → Option α} {set : Option α → σ → σ}
    {read : Decoder α} {o : Origin} {d : Depth} {r : Raw} {a : α} (h : read o d r = .ok a) :
    (slot name get set read).read o d r = .ok (set (some a)) := by
  rw [slot]
  dsimp only
  rw [h]
  rfl

end RecordField

/-- What goes on from a required field had the field. -/
theorem exists_of_required_bind {α β : Type} {name : String} {x : Option α}
    {next : α → Except String β} {b : β} (h : (required name x >>= next) = .ok b) :
    ∃ a, x = some a ∧ next a = .ok b := by
  cases x with
  | none => cases h
  | some a => exact ⟨a, rfl, h⟩

/-- Fields that may be read in any order. -/
structure Independent (fields : List (RecordField σ)) : Prop where
  sound : ∀ f ∈ fields, f.Sound
  apart : fields.Pairwise RecordField.Apart

namespace Independent

variable {f g : RecordField σ} {fields : List (RecordField σ)}

/-- Fewer fields are independent too. -/
theorem of_cons (h : Independent (f :: fields)) : Independent fields where
  sound := (List.forall_mem_cons.1 h.sound).2
  apart := (List.pairwise_cons.1 h.apart).2

/-- Fields with different names are apart, wherever they stand. -/
theorem apart_of_name_ne (h : Independent fields) (hf : f ∈ fields) (hg : g ∈ fields)
    (hne : f.name ≠ g.name) : f.Apart g := by
  induction fields with
  | nil => exact absurd hf List.not_mem_nil
  | cons k fields ih =>
    obtain ⟨hk, -⟩ := List.pairwise_cons.1 h.apart
    rcases List.mem_cons.1 hf with rfl | hf' <;> rcases List.mem_cons.1 hg with rfl | hg'
    · exact absurd rfl hne
    · exact hk g hg'
    · exact (hk f hf').symm
    · exact ih h.of_cons hf' hg'

end Independent

/-! ## 2. Slots

A record that is being read is a tuple of slots, and its fields fill these slots in their order. A
field changes its own slot and none of the others, so that the order in which the fields are read
does not matter. -/

/-- The contents of slots for values of some types. -/
@[reducible] def Slots : List Type → Type
  | [] => Unit
  | α :: types => Option α × Slots types

/-- Slots in which nothing has been put yet. -/
def Slots.empty : (types : List Type) → Slots types
  | [] => ()
  | _ :: types => (none, Slots.empty types)

/-- Slots are found as they were put, and what was put before does not count. -/
structure Keeps {types : List Type} (get : σ → Slots types) (set : Slots types → σ → σ) : Prop where
  get_set : ∀ t s, get (set t s) = t
  set_set : ∀ t t' s, set t (set t' s) = set t s

/-- What keeps all slots keeps those behind the first one. -/
theorem Keeps.tail {α : Type} {types : List Type} {get : σ → Slots (α :: types)}
    {set : Slots (α :: types) → σ → σ} (h : Keeps get set) :
    Keeps (fun s => (get s).2) (fun rest s => set ((get s).1, rest) s) where
  get_set t s := by rw [h.get_set]
  set_set t t' s := by rw [h.set_set, h.get_set]

/-- Fields that fill, in their order, the slots that `get` reads and `set` changes. -/
inductive Fills : (types : List Type) → (σ → Slots types) → (Slots types → σ → σ) →
    List (RecordField σ) → Prop where
  | nil {get : σ → Slots []} {set : Slots [] → σ → σ} : Fills [] get set []
  | cons {α : Type} {types : List Type} {get : σ → Slots (α :: types)}
      {set : Slots (α :: types) → σ → σ} {name : String} {read : Decoder α}
      {fields : List (RecordField σ)}
      (rest : Fills types (fun s => (get s).2) (fun rest s => set ((get s).1, rest) s) fields) :
      Fills (α :: types) get set
        (.slot name (fun s => (get s).1) (fun a s => set (a, (get s).2) s) read :: fields)

namespace Fills

variable {types : List Type} {get : σ → Slots types} {set : Slots types → σ → σ}
  {fields : List (RecordField σ)} {f : RecordField σ}

/-- An assignment changes nothing but slots, and what it puts there depends on nothing else. -/
theorem exists_put_eq (h : Fills types get set fields) (hf : f ∈ fields) {p : σ → σ}
    (hp : f.Puts p) : ∃ change : Slots types → Slots types, ∀ s, p s = set (change (get s)) s := by
  induction h with
  | nil => exact absurd hf List.not_mem_nil
  | cons _ ih =>
    rcases List.mem_cons.1 hf with rfl | hf
    · obtain ⟨_, _, _, a, -, rfl⟩ := RecordField.exists_of_puts_slot hp
      exact ⟨fun t => (some a, t.2), fun _ => rfl⟩
    · obtain ⟨change, hchange⟩ := ih hf
      exact ⟨fun t => (t.1, change t.2), hchange⟩

/-- Whether a field has been read is seen from the slots. -/
theorem exists_filled_eq (h : Fills types get set fields) (hf : f ∈ fields) :
    ∃ seen : Slots types → Bool, ∀ s, f.filled s = seen (get s) := by
  induction h with
  | nil => exact absurd hf List.not_mem_nil
  | cons _ ih =>
    rcases List.mem_cons.1 hf with rfl | hf
    · exact ⟨fun t => t.1.isSome, fun _ => rfl⟩
    · obtain ⟨seen, hseen⟩ := ih hf
      exact ⟨fun t => seen t.2, hseen⟩

/-- The field of the first slot does not meet the fields of the others. -/
theorem apart_head {α : Type} {get : σ → Slots (α :: types)} {set : Slots (α :: types) → σ → σ}
    {name : String} {read : Decoder α} (hkeeps : Keeps get set)
    (h : Fills types (fun s => (get s).2) (fun rest s => set ((get s).1, rest) s) fields)
    (hf : f ∈ fields) (hname : name ≠ f.name) :
    (RecordField.slot name (fun s => (get s).1) (fun a s => set (a, (get s).2) s)
      read).Apart f where
  name_ne := hname
  comm hp hq s := by
    obtain ⟨_, _, _, a, -, rfl⟩ := RecordField.exists_of_puts_slot hp
    obtain ⟨change, hchange⟩ := h.exists_put_eq hf hq
    simp only [hchange, hkeeps.get_set, hkeeps.set_set]
  filled hq s := by
    obtain ⟨change, hchange⟩ := h.exists_put_eq hf hq
    simp only [RecordField.slot, hchange, hkeeps.get_set]
  filled' hp s := by
    obtain ⟨_, _, _, a, -, rfl⟩ := RecordField.exists_of_puts_slot hp
    obtain ⟨seen, hseen⟩ := h.exists_filled_eq hf
    simp only [hseen, hkeeps.get_set]

/-- Fields that fill slots are independent if their names differ. -/
theorem independent (h : Fills types get set fields) (hkeeps : Keeps get set)
    (hnames : (fields.map (·.name)).Nodup) : Independent fields := by
  induction h with
  | nil => exact ⟨List.forall_mem_nil _, .nil⟩
  | @cons α types get set name read fields hrest ih =>
    obtain ⟨hname, hnames⟩ := List.nodup_cons.1 hnames
    have hfields := ih hkeeps.tail hnames
    refine ⟨List.forall_mem_cons.2 ⟨?_, hfields.sound⟩,
      List.pairwise_cons.2 ⟨fun f hf => ?_, hfields.apart⟩⟩
    · refine ⟨fun hp s => ?_, fun hp hq s => ?_⟩
      · obtain ⟨_, _, _, a, -, rfl⟩ := RecordField.exists_of_puts_slot hp
        simp only [RecordField.slot, hkeeps.get_set, Option.isSome_some]
      · obtain ⟨_, _, _, a, -, rfl⟩ := RecordField.exists_of_puts_slot hp
        obtain ⟨_, _, _, b, -, rfl⟩ := RecordField.exists_of_puts_slot hq
        simp only [hkeeps.get_set, hkeeps.set_set]
    · exact hrest.apart_head hkeeps hf fun h => hname (List.mem_map.2 ⟨f, hf, h.symm⟩)

/-- In empty slots there is no field. -/
theorem filled_eq_false (h : Fills types get set fields) {s : σ}
    (hs : get s = Slots.empty types) (hf : f ∈ fields) : f.filled s = false := by
  induction h with
  | nil => exact absurd hf List.not_mem_nil
  | cons _ ih =>
    rcases List.mem_cons.1 hf with rfl | hf
    · simp only [RecordField.slot, hs, Slots.empty, Option.isSome_none]
    · exact ih (congrArg Prod.snd hs) hf

end Fills

/-! ## 3. Reading by a look-up -/

/-- Reads the fields that a look-up finds, in declared order. -/
def gather (o : Origin) (d : Depth) (look : String → Option Raw) :
    List (RecordField σ) → σ → Except Trouble σ
  | [], s => .ok s
  | f :: fields, s =>
    match look f.name with
    | none => gather o d look fields s
    | some r =>
      match f.read o d r with
      | .ok put => gather o d look fields (put s)
      | .error t => .error t

section

variable {o : Origin} {d : Depth} {look look' : String → Option Raw}
  {fields : List (RecordField σ)} {f : RecordField σ} {s s' : σ}

/-- A field that finds nothing is passed over. -/
theorem gather_cons_of_none (h : look f.name = none) :
    gather o d look (f :: fields) s = gather o d look fields s := by
  rw [gather, h]

/-- A field that finds a value assigns it before the other fields are read. -/
theorem gather_cons_eq_ok_iff {r : Raw} (h : look f.name = some r) :
    gather o d look (f :: fields) s = .ok s'
      ↔ ∃ p, f.read o d r = .ok p ∧ gather o d look fields (p s) = .ok s' := by
  rw [gather, h]
  dsimp only
  cases f.read o d r <;> simp

/-- Only the names of the fields are looked up. -/
theorem gather_congr (h : ∀ f ∈ fields, look f.name = look' f.name) :
    gather o d look fields s = gather o d look' fields s := by
  induction fields generalizing s with
  | nil => rfl
  | cons f fields ih =>
    rw [List.forall_mem_cons] at h
    rw [gather, gather, h.1]
    cases look' f.name with
    | none => exact ih h.2
    | some r =>
      dsimp only
      cases f.read o d r with
      | error e => rfl
      | ok p => exact ih h.2

/-- Every field accepts what it finds, or nothing is read. -/
theorem exists_gather_eq_ok_iff :
    (∃ s', gather o d look fields s = .ok s')
      ↔ ∀ f ∈ fields, ∀ r, look f.name = some r → ∃ p, f.read o d r = .ok p := by
  induction fields generalizing s with
  | nil => exact ⟨fun _ f hf => absurd hf List.not_mem_nil, fun _ => ⟨s, rfl⟩⟩
  | cons f fields ih =>
    rw [List.forall_mem_cons]
    cases hf : look f.name with
    | none => simp [gather_cons_of_none hf, ih]
    | some r =>
      simp only [gather_cons_eq_ok_iff hf, Option.some.injEq, forall_eq']
      constructor
      · rintro ⟨s', p, hp, hs'⟩
        exact ⟨⟨p, hp⟩, ih.1 ⟨s', hs'⟩⟩
      · rintro ⟨⟨p, hp⟩, hrest⟩
        obtain ⟨s', hs'⟩ := ih.2 hrest
        exact ⟨s', p, hp, hs'⟩

/-- An assignment to a slot that no field found commutes with reading. -/
theorem gather_put_eq_ok_iff {p : σ → σ} (hp : f.Puts p)
    (hapart : ∀ g ∈ fields, look g.name ≠ none → f.Apart g) :
    gather o d look fields (p s) = .ok s'
      ↔ ∃ s₀, gather o d look fields s = .ok s₀ ∧ s' = p s₀ := by
  induction fields generalizing s with
  | nil =>
    rw [gather, gather]
    exact ⟨fun h => ⟨s, rfl, (Except.ok.inj h).symm⟩, fun ⟨s₀, h, hs'⟩ => by
      rw [hs', Except.ok.inj h]⟩
  | cons g fields ih =>
    rw [List.forall_mem_cons] at hapart
    cases hg : look g.name with
    | none => rw [gather_cons_of_none hg, gather_cons_of_none hg, ih hapart.2]
    | some r =>
      have hfg := hapart.1 (by simp [hg])
      rw [gather_cons_eq_ok_iff hg]
      simp only [gather_cons_eq_ok_iff hg]
      constructor
      · rintro ⟨q, hq, hs'⟩
        -- the assignment moves behind that of the field, which does not see it
        rw [← hfg.comm hp ⟨o, d, r, hq⟩, ih hapart.2] at hs'
        obtain ⟨s₀, hs₀, rfl⟩ := hs'
        exact ⟨s₀, ⟨q, hq, hs₀⟩, rfl⟩
      · rintro ⟨s₀, ⟨q, hq, hs₀⟩, rfl⟩
        refine ⟨q, hq, ?_⟩
        rw [← hfg.comm hp ⟨o, d, r, hq⟩, ih hapart.2]
        exact ⟨s₀, hs₀, rfl⟩

/-- One value more to find is one assignment more. -/
theorem gather_eq_ok_iff_of_agree (hfields : Independent fields) (hf : f ∈ fields) {r : Raw}
    (hr : look f.name = some r) (hnone : look' f.name = none)
    (hagree : ∀ name, name ≠ f.name → look name = look' name) :
    gather o d look fields s = .ok s'
      ↔ ∃ p s₀, f.read o d r = .ok p ∧ gather o d look' fields s = .ok s₀ ∧ s' = p s₀ := by
  induction fields generalizing s with
  | nil => exact absurd hf List.not_mem_nil
  | cons g fields ih =>
    obtain ⟨hg, -⟩ := List.pairwise_cons.1 hfields.apart
    rcases List.mem_cons.1 hf with rfl | hf'
    · have hrest : ∀ h ∈ fields, look h.name = look' h.name := fun h hh =>
        hagree h.name (hg h hh).name_ne.symm
      rw [gather_cons_eq_ok_iff hr, gather_cons_of_none hnone]
      constructor
      · rintro ⟨p, hp, hs'⟩
        rw [gather_congr hrest, gather_put_eq_ok_iff ⟨o, d, r, hp⟩ fun h hh _ => hg h hh] at hs'
        obtain ⟨s₀, hs₀, rfl⟩ := hs'
        exact ⟨p, s₀, hp, hs₀, rfl⟩
      · rintro ⟨p, s₀, hp, hs₀, rfl⟩
        refine ⟨p, hp, ?_⟩
        rw [gather_congr hrest, gather_put_eq_ok_iff ⟨o, d, r, hp⟩ fun h hh _ => hg h hh]
        exact ⟨s₀, hs₀, rfl⟩
    -- the field comes later, so its assignment has to pass that of the first one
    · have hne := (hg f hf').name_ne
      have hlook := hagree g.name hne
      cases hg' : look g.name with
      | none =>
        rw [gather_cons_of_none hg', gather_cons_of_none (hlook ▸ hg')]
        exact ih hfields.of_cons hf'
      | some r' =>
        simp only [gather_cons_eq_ok_iff hg', gather_cons_eq_ok_iff (hlook ▸ hg' :
          look' g.name = some r'), ih hfields.of_cons hf']
        constructor
        · rintro ⟨q, hq, p, s₀, hp, hs₀, rfl⟩
          exact ⟨p, s₀, hp, ⟨q, hq, hs₀⟩, rfl⟩
        · rintro ⟨p, s₀, hp, ⟨q, hq, hs₀⟩, rfl⟩
          exact ⟨q, hq, p, s₀, hp, hs₀, rfl⟩

/-- After reading, the slots are filled that were filled before or whose names were found. -/
theorem filled_of_gather (hfields : Independent fields)
    (h : gather o d look fields s = .ok s') (hf : f ∈ fields) :
    f.filled s' = (f.filled s || (look f.name).isSome) := by
  -- fields that are apart from this one do not fill its slot
  have hother : ∀ {gs : List (RecordField σ)} {s s' : σ}, (∀ g ∈ gs, f.Apart g) →
      gather o d look gs s = .ok s' → f.filled s' = f.filled s := by
    intro gs
    induction gs with
    | nil =>
      rintro s s' - h
      rw [Except.ok.inj h]
    | cons g gs ih =>
      intro s s' hgs h
      rw [List.forall_mem_cons] at hgs
      cases hg : look g.name with
      | none => exact ih hgs.2 (gather_cons_of_none hg ▸ h)
      | some r =>
        obtain ⟨q, hq, h⟩ := (gather_cons_eq_ok_iff hg).1 h
        rw [ih hgs.2 h, hgs.1.filled ⟨o, d, r, hq⟩]
  induction fields generalizing s with
  | nil => exact absurd hf List.not_mem_nil
  | cons g fields ih =>
    obtain ⟨hg, -⟩ := List.pairwise_cons.1 hfields.apart
    rcases List.mem_cons.1 hf with rfl | hf'
    · cases hlook : look f.name with
      | none => simp [hother hg (gather_cons_of_none hlook ▸ h)]
      | some r =>
        obtain ⟨p, hp, h⟩ := (gather_cons_eq_ok_iff hlook).1 h
        rw [hother hg h, (hfields.sound f List.mem_cons_self).filled ⟨o, d, r, hp⟩]
        simp
    · cases hlook : look g.name with
      | none => exact ih hfields.of_cons (gather_cons_of_none hlook ▸ h) hf'
      | some r =>
        obtain ⟨q, hq, h⟩ := (gather_cons_eq_ok_iff hlook).1 h
        rw [ih hfields.of_cons h hf', (hg f hf').symm.filled ⟨o, d, r, hq⟩]

/-- Where no field finds anything nothing is read. -/
theorem gather_of_none (h : ∀ f ∈ fields, look f.name = none) :
    gather o d look fields s = .ok s := by
  induction fields with
  | nil => rfl
  | cons f fields ih =>
    rw [List.forall_mem_cons] at h
    rw [gather_cons_of_none h.1, ih h.2]

end

/-! ## 4. Members of an object and items of an array -/

/-- The tree of the first member with a name. -/
def look (members : List (String × Value)) (name : String) : Option Raw :=
  (members.find? fun m => m.1 == name).map fun m => m.2.raw

@[simp] theorem look_nil (name : String) : look [] name = none := rfl

theorem look_cons (m : String × Value) (ms : List (String × Value)) (name : String) :
    look (m :: ms) name = if m.1 = name then some m.2.raw else look ms name := by
  by_cases h : m.1 = name <;> simp [look, h]

@[simp] theorem look_cons_self (name : String) (v : Value) (ms : List (String × Value)) :
    look ((name, v) :: ms) name = some v.raw := by
  simp [look]

/-- A member with another name is passed over. -/
theorem look_cons_of_ne {m : String × Value} {name : String} (h : m.1 ≠ name)
    (ms : List (String × Value)) : look (m :: ms) name = look ms name := by
  rw [look_cons, if_neg h]

/-- What has no member is not found. -/
theorem look_eq_none {ms : List (String × Value)} {name : String} (h : name ∉ ms.map Prod.fst) :
    look ms name = none := by
  induction ms with
  | nil => rfl
  | cons m ms ih =>
    rw [List.map_cons, List.mem_cons, not_or] at h
    rw [look_cons_of_ne (Ne.symm h.1), ih h.2]

/-- Exactly the names of members are found. -/
theorem isSome_look {ms : List (String × Value)} {name : String} :
    (look ms name).isSome = true ↔ name ∈ ms.map Prod.fst := by
  simp [look, List.mem_map]

/-- Where the keys differ every member is found under its key. -/
theorem look_eq_some_iff {ms : List (String × Value)} (h : (ms.map Prod.fst).Nodup) {name : String}
    {r : Raw} : look ms name = some r ↔ ∃ v, (name, v) ∈ ms ∧ v.raw = r := by
  induction ms with
  | nil => simp
  | cons m ms ih =>
    obtain ⟨key, v⟩ := m
    obtain ⟨hkey, hrest⟩ := List.nodup_cons.1 h
    by_cases hname : key = name
    · subst hname
      have hnot (w : Value) : (key, w) ∉ ms := fun hw =>
        hkey (List.mem_map.2 ⟨(key, w), hw, rfl⟩)
      simp [hnot]
    · rw [look_cons_of_ne hname, ih hrest]
      simp [Ne.symm hname]

/-- Items take as many names as there are items. -/
theorem keys_zip_sublist (names : List String) (items : List Value) :
    ((names.zip items).map Prod.fst).Sublist names := by
  induction names generalizing items with
  | nil => exact List.nil_sublist _
  | cons name names ih =>
    cases items with
    | nil => exact List.nil_sublist _
    | cons v vs => exact (ih vs).cons_cons name

namespace RecordKind

variable {o : Origin} {d : Depth} {fields : List (RecordField σ)} {s s' : σ}

/-- Members with different keys are read as the fields find them. -/
theorem readMembers_eq_ok_iff (hfields : Independent fields) {ms : List (String × Value)}
    (hkeys : (ms.map Prod.fst).Nodup)
    (hfree : ∀ f ∈ fields, f.name ∈ ms.map Prod.fst → f.filled s = false) :
    readMembers fields o d (rawMembers ms) s = .ok s'
      ↔ gather o d (look ms) fields s = .ok s' := by
  induction ms generalizing s with
  | nil =>
    rw [gather_of_none fun f _ => look_nil f.name]
    exact Iff.rfl
  | cons m ms ih =>
    obtain ⟨key, v⟩ := m
    obtain ⟨hkey, hrest⟩ := List.nodup_cons.1 hkeys
    rw [rawMembers_cons, readMembers]
    cases hfind : fields.find? fun f => f.name == key with
    | none =>
      have hne (f : RecordField σ) (hf : f ∈ fields) : key ≠ f.name := fun h =>
        List.find?_eq_none.1 hfind f hf (beq_iff_eq.2 h.symm)
      rw [gather_congr fun f hf => look_cons_of_ne (hne f hf) ms]
      simp only [skip_raw, mapError_eq_ok_iff]
      exact ih hrest fun f hf h => hfree f hf (List.mem_cons_of_mem _ h)
    | some f =>
      obtain rfl : f.name = key := by simpa using List.find?_some hfind
      have hf := List.mem_of_find?_eq_some hfind
      have hnone := look_eq_none hkey
      -- no later member has this key, so the first one is one assignment more
      rw [gather_eq_ok_iff_of_agree hfields hf (look_cons_self f.name v ms) hnone
        fun name hname => look_cons_of_ne (Ne.symm hname) ms]
      simp only [hfree f hf List.mem_cons_self, Bool.false_eq_true, if_false]
      cases hread : f.read o d v.raw with
      | error e => simp
      | ok p =>
        have hfree' : ∀ g ∈ fields, g.name ∈ ms.map Prod.fst → g.filled (p s) = false := by
          intro g hg hname
          have hne : g.name ≠ f.name := fun h => hkey (h ▸ hname)
          rw [(hfields.apart_of_name_ne hg hf hne).filled ⟨o, d, v.raw, hread⟩]
          exact hfree g hg (List.mem_cons_of_mem _ hname)
        have hapart : ∀ g ∈ fields, look ms g.name ≠ none → f.Apart g := by
          intro g hg hname
          refine hfields.apart_of_name_ne hf hg fun h => hname ?_
          rw [← h, hnone]
        simp only [mapError_eq_ok_iff, ih hrest hfree',
          gather_put_eq_ok_iff ⟨o, d, v.raw, hread⟩ hapart]
        simp

/-- The items of an array under the names of the fields. -/
def named (fields : List (RecordField σ)) (items : List Value) : List (String × Value) :=
  (fields.map (·.name)).zip items

/-- So items under the names of fields have no name twice where the fields have none. -/
theorem keys_named_sublist (fields : List (RecordField σ)) (items : List Value) :
    ((named fields items).map Prod.fst).Sublist (fields.map (·.name)) :=
  keys_zip_sublist _ items

/-- Items are read as the fields find them under their names. -/
theorem readItems_eq_ok_iff (hfields : Independent fields) {items : List Value} {rest : Items} :
    readItems o d fields (rawItems items) s = .ok (s', rest)
      ↔ gather o d (look (named fields items)) fields s = .ok s'
        ∧ rest = rawItems (items.drop fields.length) := by
  induction fields generalizing items s with
  | nil =>
    rw [readItems, gather]
    simp [eq_comm]
  | cons f fields ih =>
    cases items with
    | nil =>
      rw [gather_of_none fun g _ => by simp [named]]
      simp [readItems, eq_comm]
    | cons v vs =>
      have hlook : look (named (f :: fields) (v :: vs)) f.name = some v.raw :=
        look_cons_self ..
      have hrest (g : RecordField σ) (hg : g ∈ fields) :
          look (named (f :: fields) (v :: vs)) g.name = look (named fields vs) g.name :=
        look_cons_of_ne ((List.pairwise_cons.1 hfields.apart).1 g hg).name_ne _
      rw [rawItems_cons, readItems, gather_cons_eq_ok_iff hlook]
      cases hread : f.read o d v.raw with
      | error e => simp
      | ok p =>
        simp only [mapError_eq_ok_iff, gather_congr hrest, ih hfields.of_cons]
        simp

/-! ## 5. Records -/

/-- A kind of record whose fields may be read in any order. -/
structure Sound (k : RecordKind σ ρ) : Prop where
  independent : Independent k.fields
  start : ∀ f ∈ k.fields, f.filled k.start = false

variable {k : RecordKind σ ρ} {a : ρ}

/-- A record that is a tuple of slots is sound if its fields fill them and have different names. -/
theorem sound_of_slots (types : List Type) (get : σ → Slots types) (make : Slots types → σ)
    (hmake : ∀ t, get (make t) = t) (hfills : Fills types get (fun t _ => make t) k.fields)
    (hnames : (k.fields.map (·.name)).Nodup) (hstart : get k.start = Slots.empty types) :
    k.Sound where
  independent := hfills.independent ⟨fun t _ => hmake t, fun _ _ _ => rfl⟩ hnames
  start _ hf := hfills.filled_eq_false hstart hf

/-- The fields of a sound record have different names. -/
theorem Sound.nodup_names (hk : k.Sound) : (k.fields.map (·.name)).Nodup :=
  List.pairwise_map.2 (hk.independent.apart.imp RecordField.Apart.name_ne)

/-- A record is read from an object whose keys differ as its fields find their members there. -/
theorem decoder_object_eq_ok_iff (hk : k.Sound) {ms : List (String × Value)}
    (hkeys : (ms.map Prod.fst).Nodup) :
    k.decoder o (d + 1) (Value.object ms).raw = .ok a
      ↔ ∃ s, gather o d (look ms) k.fields k.start = .ok s ∧ k.complete s = .ok a := by
  have hmembers (s : σ) : readMembers k.fields o d (rawMembers ms) k.start = .ok s
      ↔ gather o d (look ms) k.fields k.start = .ok s :=
    readMembers_eq_ok_iff hk.independent hkeys fun f hf _ => hk.start f hf
  simp only [← hmembers, Value.raw, decoder, Depth.enter, bind, Except.bind, pure, Except.pure]
  cases hread : readMembers k.fields o d (rawMembers ms) k.start with
  | error e => simp
  | ok s => cases hcomplete : k.complete s <;> simp [hcomplete]

/-- An object of which a record is read may be opened. -/
theorem exists_depth_of_decoder_eq_ok {ms : List (String × Value)}
    (h : k.decoder o d (Value.object ms).raw = .ok a) : ∃ d', d = d' + 1 := by
  cases d with
  | zero => simp [decoder, Value.raw, Depth.enter, bind, Except.bind] at h
  | succ d' => exact ⟨d', rfl⟩

/-- A record is read from an array of at most as many items as it has fields, and then as from the
object with these items under the names of the fields. -/
theorem decoder_array_eq_ok_iff (hk : k.Sound) {items : List Value} :
    k.decoder o (d + 1) (Value.array items).raw = .ok a
      ↔ items.length ≤ k.fields.length
        ∧ ∃ s, gather o d (look (named k.fields items)) k.fields k.start = .ok s
          ∧ k.complete s = .ok a := by
  have hitems (s : σ) (rest : Items) :
      readItems o d k.fields (rawItems items) k.start = .ok (s, rest)
        ↔ gather o d (look (named k.fields items)) k.fields k.start = .ok s
          ∧ rest = rawItems (items.drop k.fields.length) :=
    readItems_eq_ok_iff hk.independent
  -- an array ends where no item is left over, in a text as well as in a value
  have hend (n : Nat) (all : Items) (vs : List Value) :
      checkEnd o n all (rawItems vs) = .ok () ↔ vs = [] := by
    cases vs with
    | nil => simp [checkEnd]
    | cons v vs => cases o <;> simp [checkEnd]
  simp only [Value.raw, decoder, Depth.enter, bind, Except.bind, pure, Except.pure]
  cases hread : readItems o d k.fields (rawItems items) k.start with
  | error e =>
    have hnone (s : σ) : gather o d (look (named k.fields items)) k.fields k.start ≠ .ok s := by
      intro hs
      have := (hitems s _).2 ⟨hs, rfl⟩
      simp [hread] at this
    simp [hnone]
  | ok found =>
    obtain ⟨s, rest⟩ := found
    obtain ⟨hs, rfl⟩ := (hitems s rest).1 hread
    rw [hs]
    cases hcomplete : k.complete s with
    | error e => simp [hcomplete]
    | ok b =>
      have hlength := hend k.fields.length (rawItems items) (items.drop k.fields.length)
      rw [List.drop_eq_nil_iff] at hlength
      cases hcheck : checkEnd o k.fields.length (rawItems items)
          (rawItems (items.drop k.fields.length)) with
      | error e =>
        rw [hcheck] at hlength
        simp [hcheck, hcomplete, ← hlength]
      | ok _ =>
        rw [hcheck] at hlength
        simp [hcheck, hcomplete, ← hlength]

/-! ## 6. Members one by one -/

variable {key : String} {r : Raw} {rest ms : Members}

/-- A member that belongs to a field fills it. -/
theorem readMembers_cons_known {f : RecordField σ} {put : σ → σ}
    (hf : fields.find? (·.name == key) = some f) (hfree : f.filled s = false)
    (hread : f.read o d r = .ok put) :
    readMembers fields o d (.cons (.ok key) r rest) s = .ok s'
      ↔ readMembers fields o d rest (put s) = .ok s' := by
  rw [readMembers, hf]
  dsimp only
  rw [hfree, hread]
  exact mapError_eq_ok_iff

/-- A member that belongs to none is passed over. -/
theorem readMembers_cons_unknown (hf : fields.find? (·.name == key) = none)
    (hskip : r.skip = .ok ()) :
    readMembers fields o d (.cons (.ok key) r rest) s = .ok s'
      ↔ readMembers fields o d rest s = .ok s' := by
  rw [readMembers, hf]
  dsimp only
  rw [hskip]
  exact mapError_eq_ok_iff

/-- A record is read from an object whose members are. -/
theorem decoder_of_readMembers (hread : readMembers k.fields o d ms k.start = .ok s)
    (ha : k.complete s = .ok a) : k.decoder o (d + 1) (.object ms) = .ok a := by
  simp [decoder, Depth.enter, hread, ha, bind, Except.bind, pure, Except.pure]

end RecordKind

end Widgetry.Json
