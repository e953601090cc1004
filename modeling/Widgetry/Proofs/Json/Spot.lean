import Widgetry.Proofs.Json.Change
import Widgetry.Proofs.Json.Shape

/-!
Spots: places of texts in documents. A spot says where in a document a text stands, what may stand
there, and how the text is put into what is read from the document. It is sound if another scalar at
the spot does to what is read exactly what the spot says (`Spot.Sound`).

A field of a record is a sound spot if its decoder and its record agree (`sound_field`), and a sound
spot stays one inside a list, a value that may be null and a member of a larger record. So the spots
of nested documents are put together from those of their parts.
-/

namespace Widgetry.Json

/-! ## 1. Paths -/

/-- A step into a value: to the member of a key or to the item at a place. -/
inductive PathStep where
  | member (key : String)
  | item (index : Nat)

namespace Value

/-- Whether a value is neither an array nor an object. -/
def isScalar : Value → Bool
  | .array _ => false
  | .object _ => false
  | _ => true

/-- The value at the end of a path. -/
def at? : List PathStep → Value → Option Value
  | [], v => some v
  | .member key :: path, .object ms => ((object ms).member? key).bind (at? path)
  | .item i :: path, .array items => items[i]?.bind (at? path)
  | _, _ => none

/-- The value with another member of a key, or none, in the object at the end of a path. -/
def setAt (key : String) (new : Option Value) : List PathStep → Value → Value
  | [], .object ms => .object (alterMember key (fun _ => new) ms)
  | .member k :: path, .object ms => .object (alterMember k (Option.map (setAt key new path)) ms)
  | .item i :: path, .array items => .array (items.modify i (setAt key new path))
  | _, v => v

end Value

/-- A decoder accepts some scalars, and makes something of their texts. -/
def Decoder.Reads {α : Type} (read : Decoder α) (accepts : Shape) (make : Option String → α) :
    Prop :=
  ∀ ⦃o d⦄ ⦃s : Value⦄, s.isScalar = true → ∀ b,
    read o d s.raw = .ok b ↔ accepts s = true ∧ b = make s.asText

/-! ## 2. Spots -/

/-- A spot for a text in documents of which something is read: a path to an object and a key in it,
the values that are accepted there, whether there has to be one, and how the text of a value is put
into what is read, nothing for null. -/
structure Spot (ρ : Type) where
  path : List PathStep
  key : String
  accepts : Shape
  required : Bool
  put : Option String → ρ → ρ

namespace Spot

variable {ρ τ : Type}

/-- What another member at the spot does to what is read, unless reading fails. -/
def change (spot : Spot ρ) : Option Value → Option (ρ → ρ)
  | some v => if spot.accepts v then some (spot.put v.asText) else none
  | none => if spot.required then none else some (spot.put none)

/-- A spot inside a part of what is read. -/
def inside (spot : Spot ρ) (steps : List PathStep) (lift : (ρ → ρ) → τ → τ) : Spot τ :=
  { spot with path := steps ++ spot.path, put := fun t => lift (spot.put t) }

theorem exists_change_inside {spot : Spot ρ} {steps : List PathStep} {lift : (ρ → ρ) → τ → τ}
    {new : Option Value} {a a' : τ} :
    (∃ g, (spot.inside steps lift).change new = some g ∧ a' = g a)
      ↔ ∃ g, spot.change new = some g ∧ a' = lift g a := by
  have hchange : (spot.inside steps lift).change new = (spot.change new).map lift := by
    cases new with
    | none => cases h : spot.required <;> simp [change, inside, h]
    | some v => cases h : spot.accepts v <;> simp [change, inside, h]
  rw [hchange]
  cases spot.change new <;> simp

/-- Whenever something was read, another scalar at the spot, or no member, changes it as the spot
says. -/
def Sound (spot : Spot ρ) (read : Decoder ρ) : Prop :=
  ∀ ⦃o d⦄ ⦃v : Value⦄ ⦃a ms⦄, v.DistinctKeys → read o d v.raw = .ok a →
    v.at? spot.path = some (.object ms) →
    ∀ new : Option Value, (∀ s ∈ new, s.isScalar = true) → ∀ a',
      read o d (v.setAt spot.key new spot.path).raw = .ok a'
        ↔ ∃ g, spot.change new = some g ∧ a' = g a

variable {read : Decoder ρ} {spot : Spot ρ}

/-! ## 3. Spots in optional values and lists -/

/-- A spot in what may be null. -/
def optional (spot : Spot ρ) : Spot (Option ρ) :=
  spot.inside [] Option.map

/-- A spot in the item at a place of a list. -/
def item (i : Nat) (spot : Spot ρ) : Spot (List ρ) :=
  spot.inside [.item i] fun g as => as.modify i g

/-- A spot in the member of a key. -/
def member (key : String) (lift : (ρ → ρ) → τ → τ) (spot : Spot ρ) : Spot τ :=
  spot.inside [.member key] lift

theorem setAt_ne_null {v : Value} (h : v ≠ .null) (key : String) (new : Option Value)
    (path : List PathStep) : v.setAt key new path ≠ .null := by
  fun_cases Value.setAt key new path v with
  | case4 => exact h
  | _ => exact nofun

theorem Sound.optional (h : spot.Sound read) : spot.optional.Sound (Decoder.nullable read) := by
  intro o d v a ms hkeys ha hat new hnew a'
  have hne : v ≠ .null := by
    rintro rfl
    change Value.at? spot.path .null = _ at hat
    cases hpath : spot.path <;> simp [hpath, Value.at?] at hat
  obtain ⟨hnull, -⟩ | ⟨-, b, hb, rfl⟩ := Decoder.nullable_raw_eq_ok_iff.1 ha
  · exact absurd hnull hne
  · have hne' := setAt_ne_null hne spot.key new spot.path
    rw [Spot.optional, exists_change_inside, Decoder.nullable_raw_eq_ok_iff]
    simp only [show (spot.inside [] Option.map).key = spot.key from rfl,
      show (spot.inside [] Option.map).path = spot.path from rfl, h hkeys hb hat new hnew]
    simp [hne']

/-- Where lists are related item by item, changing one item changes the item related to it. -/
theorem forall₂_modify_iff {β α : Type} {R : β → α → Prop} (hfun : Relator.RightUnique R)
    {xs : List β} {as : List α} (h : List.Forall₂ R xs as) {i : Nat} {x : β} (hx : xs[i]? = some x)
    {f : β → β} {change : Option (α → α)}
    (hf : ∀ a, R x a → ∀ b, R (f x) b ↔ ∃ g, change = some g ∧ b = g a) (bs : List α) :
    List.Forall₂ R (xs.modify i f) bs ↔ ∃ g, change = some g ∧ bs = as.modify i g := by
  induction h generalizing i bs with
  | nil => simp at hx
  | @cons y a ys as hya hys ih =>
    cases i with
    | zero =>
      obtain rfl : y = x := by simpa using hx
      -- the later items are related to the later results, and to no others
      have hsame (bs : List α) : List.Forall₂ R ys bs ↔ bs = as :=
        ⟨fun h => List.right_unique_forall₂' hfun h hys, fun h => h ▸ hys⟩
      simp only [List.modify_zero_cons, List.forall₂_cons_left_iff, hf a hya, hsame]
      constructor
      · rintro ⟨_, _, ⟨g, hg, rfl⟩, rfl, rfl⟩
        exact ⟨g, hg, rfl⟩
      · rintro ⟨g, hg, rfl⟩
        exact ⟨_, _, ⟨g, hg, rfl⟩, rfl, rfl⟩
    | succ i =>
      have hsame (b : α) : R y b ↔ b = a := ⟨fun h => hfun h hya, fun h => h ▸ hya⟩
      simp only [List.modify_succ_cons, List.forall₂_cons_left_iff, hsame, ih (by simpa using hx)]
      constructor
      · rintro ⟨_, _, rfl, ⟨g, hg, rfl⟩, rfl⟩
        exact ⟨g, hg, rfl⟩
      · rintro ⟨g, hg, rfl⟩
        exact ⟨_, _, rfl, ⟨g, hg, rfl⟩, rfl⟩

theorem Sound.item (h : spot.Sound read) (i : Nat) :
    (spot.item i).Sound (Decoder.orDefault [] (Decoder.list read)) := by
  intro o d v as ms hkeys has hat new hnew as'
  cases v with
  | array items =>
    obtain ⟨w, hw, hat⟩ := Option.bind_eq_some_iff.1 (show items[i]?.bind _ = _ from hat)
    obtain ⟨hnull, -⟩ | ⟨-, has⟩ := Decoder.orDefault_raw_eq_ok_iff.1 has
    · exact nomatch hnull
    obtain ⟨d, rfl⟩ := Decoder.exists_depth_of_list_eq_ok has
    rw [Decoder.list_array_eq_ok_iff] at has
    have hwkeys := ((Value.everywhere_array items).1 hkeys).2 w (List.mem_of_getElem? hw)
    -- changing the text inside the item is changing the item in place
    have hset : (Value.array items).setAt (spot.item i).key new (spot.item i).path
        = .array (items.modify i (Value.setAt spot.key new spot.path)) := rfl
    have hfun : Relator.RightUnique fun (v : Value) a => read o d v.raw = .ok a := fun _ _ _ h h' =>
      Except.ok.inj (h.symm.trans h')
    rw [hset, Decoder.orDefault_raw_eq_ok_iff, Decoder.list_array_eq_ok_iff,
      forall₂_modify_iff hfun has hw fun a ha => h hwkeys ha hat new hnew, Spot.item,
      exists_change_inside]
    simp
  | _ => simp [Spot.item, inside, Value.at?] at hat

/-! ## 4. Spots in records -/

section

variable {σ α : Type} {k : RecordKind σ ρ} {name : String} {get : σ → Option α}
  {set : Option α → σ → σ} {slotRead : Decoder α}

/-- A spot in the value of a field of a record. -/
theorem Sound.member {spot : Spot α} (h : spot.Sound slotRead) (hk : k.Sound) (i : Nat)
    (hf : k.fields[i]? = some (.slot name get set slotRead)) {lift : (α → α) → ρ → ρ}
    (hlift : ∀ g s a b, k.complete s = .ok a → get s = some b →
      k.complete (set (some (g b)) s) = .ok (lift g a))
    (hslot : LawfulSlot get set := by exact ⟨fun _ _ => rfl, fun _ _ _ => rfl, fun _ => rfl⟩) :
    (spot.member name lift).Sound k.decoder := by
  intro o d v a ms hkeys ha hat new hnew a'
  cases v with
  | object members =>
    obtain ⟨w, hw, hat⟩ :=
      Option.bind_eq_some_iff.1 (show ((Value.object members).member? name).bind _ = _ from hat)
    obtain ⟨d, rfl⟩ := RecordKind.exists_depth_of_decoder_eq_ok ha
    obtain ⟨hkeys, hinside⟩ := (Value.everywhere_object members).1 hkeys
    obtain ⟨s, hs, hget, hiff⟩ :=
      RecordKind.exists_alterMember hk (List.mem_of_getElem? hf) hslot hkeys ha
    obtain ⟨b, hb, hgetb⟩ := hget w hw
    have hwkeys : w.DistinctKeys := hinside _ (mem_of_member?_eq_some hw)
    -- changing the text inside the member is changing the member in place
    have hset : (Value.object members).setAt (spot.member name lift).key new
          (spot.member name lift).path
        = .object (alterMember name (Option.map (Value.setAt spot.key new spot.path)) members) :=
      rfl
    rw [hset, hiff, hw, Spot.member, exists_change_inside]
    dsimp only [Option.map]
    simp only [h hwkeys hb hat new hnew]
    constructor
    · rintro ⟨_, ⟨g, hg, rfl⟩, ha'⟩
      exact ⟨g, hg, Except.ok.inj (ha'.symm.trans (hlift g s a b hs hgetb))⟩
    · rintro ⟨g, hg, rfl⟩
      exact ⟨_, ⟨g, hg, rfl⟩, hlift g s a b hs hgetb⟩
  | _ => simp [Spot.member, inside, Value.at?] at hat

/-- The spot of a field of a record. -/
def field (key : String) (accepts : Shape) (required : Bool) (put : Option String → ρ → ρ) :
    Spot ρ :=
  ⟨[], key, accepts, required, put⟩

/-- The field of a record is a sound spot if it reads the texts of the scalars it accepts, each text
is put into the record, and so is none when it is left open. -/
theorem sound_field (hk : k.Sound) (i : Nat)
    (hf : k.fields[i]? = some (.slot name get set slotRead)) {accepts : Shape} {required : Bool}
    {put : Option String → ρ → ρ} {make : Option String → α}
    (hread : slotRead.Reads accepts make)
    (hput : ∀ t s a, k.complete s = .ok a → k.complete (set (some (make t)) s) = .ok (put t a))
    (hopen : ∀ s a, k.complete s = .ok a →
      k.complete (set none s) = if required then .error name else .ok (put none a))
    (hslot : LawfulSlot get set := by exact ⟨fun _ _ => rfl, fun _ _ _ => rfl, fun _ => rfl⟩) :
    (field name accepts required put).Sound k.decoder := by
  intro o d v a ms hkeys ha hat new hnew a'
  obtain rfl : v = .object ms := Option.some.inj hat
  obtain ⟨d, rfl⟩ := RecordKind.exists_depth_of_decoder_eq_ok ha
  obtain ⟨s, hs, -, hiff⟩ :=
    RecordKind.exists_alterMember hk (List.mem_of_getElem? hf) hslot
      ((Value.everywhere_object ms).1 hkeys).1 ha
  have hset : (Value.object ms).setAt name new [] = .object (alterMember name (fun _ => new) ms) :=
    rfl
  rw [show (field name accepts required put).path = [] from rfl,
    show (field name accepts required put).key = name from rfl, hset, hiff]
  cases new with
  | none =>
    dsimp only
    rw [hopen s a hs]
    cases required <;> simp [change, field, eq_comm]
  | some w =>
    dsimp only
    simp only [hread (hnew w rfl)]
    cases h : accepts w
    · simp [change, field, h]
    · simp [change, field, h, hput _ s a hs, eq_comm]

end

end Spot

end Widgetry.Json
