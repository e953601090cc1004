import Widgetry.Proofs.Json.Decoding
import Widgetry.Proofs.Json.Record

/-!
Shapes of values, and which decoders accept exactly the values of a shape. A shape says what a value
may be and does not say what is read from it (`Shape`): any value, a text, any object, an array of
values of a shape, null or a shape, or a record by a table of its fields.

A decoder accepts a shape if it reads something from exactly the values that have it
(`Decoder.Accepts`), whether it reads a tree from its text or from a value, as long as the value is
not nested too deep. Every way to make a decoder of another one has a lemma. The last one is for
records (`RecordKind.Describes.accepts`): the table of a record lists its fields in their order,
each with its shape and with whether it has to be there, and it is the table both of objects and of
arrays.
-/

namespace Widgetry.Json

/-- A set of values that can be decided. -/
abbrev Shape := Value → Bool

/-- What the value of a field may be, and whether the field has to be there. -/
structure FieldShape where
  name : String
  shape : Shape
  required : Bool

/-- Members match a field if every one of its name has its shape, and if there is one in case the
field has to be there. -/
def FieldShape.fits (f : FieldShape) (members : List (String × Value)) : Bool :=
  (members.all fun m => m.1 != f.name || f.shape m.2)
    && (!f.required || members.any fun m => m.1 == f.name)

namespace Shape

/-- Any value. -/
def any : Shape := fun _ => true

/-- Any text. -/
def text : Shape
  | .text _ => true
  | _ => false

/-- Any object. -/
def anyObject : Shape
  | .object _ => true
  | _ => false

/-- An array with items of a shape. -/
def arrayOf (s : Shape) : Shape
  | .array items => items.all s
  | _ => false

/-- Null, or a value of a shape. -/
def orNull (s : Shape) : Shape
  | .null => true
  | v => s v

/-- A record: an object whose members match the fields, or an array with the values of the first
fields, as many as it has, where no later field has to be there. -/
def record (fields : List FieldShape) : Shape
  | .object members => fields.all fun f => f.fits members
  | .array items =>
    items.length ≤ fields.length
      && ((fields.zip items).all fun (f, v) => f.shape v)
      && (fields.drop items.length).all fun f => !f.required
  | _ => false

end Shape

namespace Decoder

variable {α β : Type} {read : Decoder α} {s : Shape}

/-- A decoder reads exactly the values of a shape. -/
def Accepts (read : Decoder α) (s : Shape) : Prop :=
  ∀ ⦃o d v⦄, v.DistinctKeys → v.nesting ≤ d → ((∃ a, read o d v.raw = .ok a) ↔ s v = true)

theorem accepts_value : value.Accepts Shape.any := fun _ _ _ _ hd =>
  ⟨fun _ => rfl, fun _ => ⟨_, value_eq_ok hd⟩⟩

theorem accepts_scalar : scalar.Accepts Shape.any := fun _ _ _ _ hd =>
  ⟨fun _ => rfl, fun _ => ⟨_, scalar_eq_ok hd⟩⟩

theorem accepts_lenientText : lenientText.Accepts Shape.any := fun _ _ _ _ hd =>
  ⟨fun _ => rfl, fun _ => ⟨_, lenientText_eq_ok hd⟩⟩

theorem accepts_text : text.Accepts Shape.text := by
  intro o d v _ _
  simp only [text_eq_ok_iff]
  cases v <;> simp [Shape.text]

theorem Accepts.nullable (h : read.Accepts s) : (nullable read).Accepts s.orNull := by
  intro o d v hkeys hd
  simp only [nullable_raw_eq_ok_iff]
  have hread := h (o := o) hkeys hd
  cases v with
  | null => simp [Shape.orNull]
  | _ => simp [Shape.orNull, ← hread]

theorem Accepts.orDefault {default : α} (h : read.Accepts s) :
    (orDefault default read).Accepts s.orNull := by
  intro o d v hkeys hd
  simp only [orDefault_raw_eq_ok_iff]
  have hread := h (o := o) hkeys hd
  cases v with
  | null => simp [Shape.orNull]
  | _ => simp [Shape.orNull, ← hread]

theorem Accepts.list (h : read.Accepts s) : (list read).Accepts s.arrayOf := by
  intro o d v hkeys hd
  cases v with
  | array items =>
    obtain ⟨d, rfl, hitems⟩ := exists_of_nesting_array_le hd
    rw [exists_list_array_eq_ok_iff, Shape.arrayOf, List.all_eq_true]
    have hkeys := ((Value.everywhere_array items).1 hkeys).2
    exact forall₂_congr fun v hv => h (hkeys v hv) (hitems v hv)
  | _ =>
    refine ⟨fun ⟨as, has⟩ => ?_, fun h => by simp [Shape.arrayOf] at h⟩
    obtain ⟨items, hitems⟩ := exists_of_list_eq_ok has
    simp at hitems

theorem accepts_map : (map value).Accepts Shape.anyObject := by
  intro o d v _ hd
  cases v with
  | object ms =>
    obtain ⟨d, rfl, hmembers⟩ := exists_of_nesting_object_le hd
    exact ⟨fun _ => rfl, fun _ => ⟨_, map_object_eq_ok hmembers⟩⟩
  | _ =>
    refine ⟨fun ⟨as, has⟩ => ?_, fun h => by simp [Shape.anyObject] at h⟩
    obtain ⟨members, hmembers⟩ := exists_of_map_eq_ok has
    simp at hmembers

end Decoder

/-! ## 3. Records -/

/-- Members match a field: what is found under its name is of its shape, and something is if the
field has to be there. -/
theorem FieldShape.fits_iff {f : FieldShape} {ms : List (String × Value)} :
    f.fits ms = true
      ↔ (∀ m ∈ ms, m.1 = f.name → f.shape m.2 = true)
        ∧ (f.required = true → f.name ∈ ms.map Prod.fst) := by
  simp only [fits, Bool.and_eq_true, List.all_eq_true, Bool.or_eq_true, bne_iff_ne,
    Bool.not_eq_true', List.any_eq_true, beq_iff_eq, List.mem_map]
  constructor
  · rintro ⟨hshape, hrequired⟩
    refine ⟨fun m hm hname => (hshape m hm).resolve_left (absurd hname), fun h => ?_⟩
    exact hrequired.resolve_left (by simp [h])
  · rintro ⟨hshape, hrequired⟩
    refine ⟨fun m hm => ?_, ?_⟩
    · by_cases hname : m.1 = f.name
      · exact .inr (hshape m hm hname)
      · exact .inl hname
    · cases h : f.required with
      | false => exact .inl rfl
      | true => exact .inr (hrequired h)

/-- A member of another name does not matter to a field. -/
theorem FieldShape.fits_cons_of_ne {f : FieldShape} {m : String × Value} (h : m.1 ≠ f.name)
    (ms : List (String × Value)) : f.fits (m :: ms) = f.fits ms := by
  have hne : (m.1 != f.name) = true := bne_iff_ne.2 h
  have heq : (m.1 == f.name) = false := beq_eq_false_iff_ne.2 h
  rw [fits, fits, List.all_cons, List.any_cons, hne, heq, Bool.true_or, Bool.true_and,
    Bool.false_or]

theorem FieldShape.fits_cons_self {f : FieldShape} {ms : List (String × Value)}
    (h : f.name ∉ ms.map Prod.fst) (v : Value) : f.fits ((f.name, v) :: ms) = f.shape v := by
  have hother : ∀ m ∈ ms, m.1 = f.name → f.shape m.2 = true := fun m hm hname =>
    absurd (List.mem_map.2 ⟨m, hm, hname⟩) h
  rw [Bool.eq_iff_iff, fits_iff, List.forall_mem_cons]
  exact ⟨fun h => h.1.1 rfl, fun h => ⟨⟨fun _ => h, hother⟩, fun _ => List.mem_cons_self⟩⟩

/-- Items match the fields at their places exactly if, under the names of the fields, they match the
fields by name. -/
theorem all_fits_zip_iff {fields : List FieldShape} (hnames : (fields.map (·.name)).Nodup)
    (items : List Value) :
    (∀ f ∈ fields, f.fits ((fields.map (·.name)).zip items) = true)
      ↔ (∀ p ∈ fields.zip items, p.1.shape p.2 = true)
        ∧ ∀ f ∈ fields.drop items.length, f.required = false := by
  induction fields generalizing items with
  | nil => simp
  | cons f fields ih =>
    obtain ⟨hname, hrest⟩ := List.nodup_cons.1 hnames
    replace hname : ∀ g ∈ fields, g.name ≠ f.name := fun g hg h =>
      hname (List.mem_map.2 ⟨g, hg, h⟩)
    cases items with
    | nil => simp [FieldShape.fits_iff]
    | cons v vs =>
      have hnew : f.name ∉ ((fields.map (·.name)).zip vs).map Prod.fst := fun h => by
        obtain ⟨m, hm, hkey⟩ := List.mem_map.1 h
        obtain ⟨g, hg, hgm⟩ := List.mem_map.1 (List.of_mem_zip hm).1
        exact hname g hg (hgm.trans hkey)
      have hothers : (∀ g ∈ fields, g.fits ((f.name, v) :: (fields.map (·.name)).zip vs) = true)
          ↔ ∀ g ∈ fields, g.fits ((fields.map (·.name)).zip vs) = true :=
        forall₂_congr fun g hg => by rw [FieldShape.fits_cons_of_ne (hname g hg).symm]
      rw [List.map_cons, List.zip_cons_cons, List.forall_mem_cons, FieldShape.fits_cons_self hnew,
        hothers, ih hrest, List.zip_cons_cons, List.forall_mem_cons, List.length_cons,
        List.drop_succ_cons, and_assoc]

namespace RecordField

variable {σ : Type}

/-- A field has a name and reads the values of a shape. -/
structure Describes (f : RecordField σ) (s : FieldShape) : Prop where
  name_eq : f.name = s.name
  accepts : f.read.Accepts s.shape

theorem describes_slot {α : Type} {name : String} {get : σ → Option α} {set : Option α → σ → σ}
    {read : Decoder α} {s : Shape} (h : read.Accepts s) (required : Bool) :
    (slot name get set read).Describes ⟨name, s, required⟩ where
  name_eq := rfl
  accepts := by
    intro o d v hkeys hd
    rw [← h (o := o) hkeys hd]
    dsimp only [slot]
    cases read o d v.raw <;> simp [Except.map]

/-- A field accepts what it finds exactly if every member of its name is of its shape. -/
theorem Describes.read_look_iff {f : RecordField σ} {s : FieldShape} (h : f.Describes s)
    {o : Origin} {d : Depth} {ms : List (String × Value)} (hkeys : (ms.map Prod.fst).Nodup)
    (hms : ∀ m ∈ ms, m.2.DistinctKeys ∧ m.2.nesting ≤ d) :
    (∀ r, look ms f.name = some r → ∃ p, f.read o d r = .ok p)
      ↔ ∀ m ∈ ms, m.1 = s.name → s.shape m.2 = true := by
  simp only [look_eq_some_iff hkeys, h.name_eq]
  constructor
  · rintro hread ⟨key, v⟩ hm rfl
    exact (h.accepts (hms _ hm).1 (hms _ hm).2).1 (hread v.raw ⟨v, hm, rfl⟩)
  · rintro hshape r ⟨v, hm, rfl⟩
    exact (h.accepts (hms _ hm).1 (hms _ hm).2).2 (hshape _ hm rfl)

end RecordField

namespace RecordKind

variable {σ ρ : Type}

/-- A kind of record has fields of some shapes, and is made of any fields among which the required
ones are. -/
structure Describes (k : RecordKind σ ρ) (shapes : List FieldShape) : Prop where
  sound : k.Sound
  fields : List.Forall₂ RecordField.Describes k.fields shapes
  complete : ∀ s, (∃ a, k.complete s = .ok a)
    ↔ List.Forall₂ (fun f g => g.required = true → f.filled s = true) k.fields shapes

/-- The names of fields are those of their shapes. -/
theorem names_eq {fields : List (RecordField σ)} {shapes : List FieldShape}
    (h : List.Forall₂ RecordField.Describes fields shapes) :
    fields.map (·.name) = shapes.map (·.name) := by
  induction h with
  | nil => rfl
  | cons hf _ ih => rw [List.map_cons, List.map_cons, hf.name_eq, ih]

variable {k : RecordKind σ ρ} {shapes : List FieldShape} {o : Origin} {d : Depth}
  {ms : List (String × Value)}

/-- A record is made of the members that a look-up finds exactly if these match its fields. -/
theorem Describes.exists_complete_iff (h : k.Describes shapes) (hkeys : (ms.map Prod.fst).Nodup)
    (hms : ∀ m ∈ ms, m.2.DistinctKeys ∧ m.2.nesting ≤ d) :
    (∃ a s, gather o d (look ms) k.fields k.start = .ok s ∧ k.complete s = .ok a)
      ↔ ∀ f ∈ shapes, f.fits ms = true := by
  have hread {fields : List (RecordField σ)} {shapes : List FieldShape}
      (h : List.Forall₂ RecordField.Describes fields shapes) :
      (∀ f ∈ fields, ∀ r, look ms f.name = some r → ∃ p, f.read o d r = .ok p)
        ↔ ∀ g ∈ shapes, ∀ m ∈ ms, m.1 = g.name → g.shape m.2 = true := by
    induction h with
    | nil => simp
    | cons hf _ ih =>
      rw [List.forall_mem_cons, List.forall_mem_cons, ih, hf.read_look_iff hkeys hms]
  have hfilled {fields : List (RecordField σ)} {shapes : List FieldShape} {s : σ}
      (hs : ∀ f ∈ fields, f.filled s = true ↔ f.name ∈ ms.map Prod.fst)
      (h : List.Forall₂ RecordField.Describes fields shapes) :
      List.Forall₂ (fun f g => g.required = true → f.filled s = true) fields shapes
        ↔ ∀ g ∈ shapes, g.required = true → g.name ∈ ms.map Prod.fst := by
    induction h with
    | nil => simp
    | cons hf _ ih =>
      rw [List.forall_mem_cons] at hs
      rw [List.forall₂_cons, List.forall_mem_cons, ih hs.2, hs.1, hf.name_eq]
  have hslots {s : σ} (hs : gather o d (look ms) k.fields k.start = .ok s) :
      ∀ f ∈ k.fields, f.filled s = true ↔ f.name ∈ ms.map Prod.fst := by
    intro f hf
    rw [filled_of_gather h.sound.independent hs hf, h.sound.start f hf, Bool.false_or, isSome_look]
  simp only [FieldShape.fits_iff, forall_and, ← hread h.fields]
  rw [← exists_gather_eq_ok_iff]
  constructor
  · rintro ⟨a, s, hs, ha⟩
    exact ⟨⟨s, hs⟩, (hfilled (hslots hs) h.fields).1 ((h.complete s).1 ⟨a, ha⟩)⟩
  · rintro ⟨⟨s, hs⟩, hrequired⟩
    obtain ⟨a, ha⟩ := (h.complete s).2 ((hfilled (hslots hs) h.fields).2 hrequired)
    exact ⟨a, s, hs, ha⟩

/-- A record is read exactly from the objects and arrays that match its fields. -/
theorem Describes.accepts (h : k.Describes shapes) : k.decoder.Accepts (Shape.record shapes) := by
  intro o d v hkeys hd
  cases v with
  | object ms =>
    obtain ⟨d, rfl, hmembers⟩ := exists_of_nesting_object_le hd
    obtain ⟨hkeys, hinside⟩ := (Value.everywhere_object ms).1 hkeys
    have hms : ∀ m ∈ ms, m.2.DistinctKeys ∧ m.2.nesting ≤ d := fun m hm =>
      ⟨hinside m hm, hmembers m hm⟩
    simp only [decoder_object_eq_ok_iff h.sound hkeys, h.exists_complete_iff hkeys hms,
      Shape.record, List.all_eq_true]
  | array items =>
    obtain ⟨d, rfl, hitems⟩ := exists_of_nesting_array_le hd
    have hnames : named k.fields items = (shapes.map (·.name)).zip items := by
      rw [named, names_eq h.fields]
    have hkeys' := h.sound.nodup_names.sublist (keys_named_sublist k.fields items)
    have hms : ∀ m ∈ named k.fields items, m.2.DistinctKeys ∧ m.2.nesting ≤ d := fun m hm =>
      have hm := (List.of_mem_zip hm).2
      ⟨((Value.everywhere_array items).1 hkeys).2 m.2 hm, hitems m.2 hm⟩
    have hfits := h.exists_complete_iff (o := o) hkeys' hms
    rw [hnames, all_fits_zip_iff (names_eq h.fields ▸ h.sound.nodup_names)] at hfits
    simp only [decoder_array_eq_ok_iff h.sound, exists_and_left, hnames, hfits,
      h.fields.length_eq]
    simp [Shape.record, and_assoc]
  | _ => simp [decoder, Shape.record, Value.raw]

end RecordKind

end Widgetry.Json
