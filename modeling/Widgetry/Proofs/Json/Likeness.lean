import Widgetry.Proofs.Json.Decoding
import Widgetry.Proofs.Json.Order
import Widgetry.Proofs.Json.Record

/-!
Values that are read alike. A likeness relates values that are to make no difference to a decoder:
those that are the same once their members are sorted, and of records also those with other members
that no field has. A decoder agrees with a likeness if it reads the same from alike values, wherever
they come from and however deep they may be nested (`Decoder.Agrees`).

Agreement is put together like decoders are: one lemma for every way to make a decoder of another
one, the last of them for records (`RecordKind.Agrees.decoder`). A record is read by looking up its
fields, so all that counts is that its fields find alike values (`gather_eq_ok_iff_of_rel`).
-/

namespace Widgetry.Json

/-- A relation of values that make no difference to one another. -/
abbrev Likeness := Value → Value → Prop

namespace Likeness

/-- Values that are the same once their members are sorted. -/
def same : Likeness := fun v w => v.sorted = w.sorted

/-- Arrays of alike items. -/
def arrayOf (l : Likeness) : Likeness
  | .array vs, .array ws => List.Forall₂ l vs ws
  | v, w => same v w

/-- Under every name of a field there are alike values, or there is none. -/
def MembersAlike (fields : List (String × Likeness)) (v w : Value) : Prop :=
  ∀ f ∈ fields, Option.Rel f.2 (v.member? f.1) (w.member? f.1)

/-- Items of an array as members of an object, under the names of fields. -/
def underNames (fields : List (String × Likeness)) (items : List Value) : Value :=
  .object ((fields.map Prod.fst).zip items)

/-- Records with alike fields: objects whatever the order of their members and whatever other
members they have, or arrays of as many items. -/
def record (fields : List (String × Likeness)) : Likeness
  | .object ms, .object ns => MembersAlike fields (.object ms) (.object ns)
  | .array vs, .array ws =>
    vs.length = ws.length ∧ MembersAlike fields (underNames fields vs) (underNames fields ws)
  | v, w => same v w

variable {l : Likeness} {fields : List (String × Likeness)} {v w : Value} {vs ws : List Value}
  {ms ns : List (String × Value)}

/-! ## 1. Forms of alike values -/

/-- Only arrays are the same as an array, item by item. -/
theorem same_array_iff :
    same (.array vs) w ↔ ∃ ws, w = .array ws ∧ ws.map Value.sorted = vs.map Value.sorted := by
  rw [same, sorted_array, eq_comm]
  exact sorted_eq_array_iff

/-- Only objects are the same as an object, whatever the order of their members is. -/
theorem same_object_iff :
    same (.object ms) w ↔ ∃ ns, w = .object ns ∧ sortedMembers ns [] = sortedMembers ms [] := by
  rw [same, sorted_object, eq_comm]
  exact sorted_eq_object_iff

/-- Sameness goes both ways. -/
theorem same_symm (h : same v w) : same w v := Eq.symm h

/-- Both are arrays with alike items, or neither is an array and they are the same. -/
theorem arrayOf_forms (h : arrayOf l v w) :
    (∃ vs ws, v = .array vs ∧ w = .array ws ∧ List.Forall₂ l vs ws)
      ∨ (∀ vs, v ≠ .array vs) ∧ (∀ ws, w ≠ .array ws) ∧ same v w := by
  cases v with
  | array vs =>
    cases w with
    | array ws => exact .inl ⟨vs, ws, rfl, rfl, h⟩
    | _ =>
      obtain ⟨ws, hws, -⟩ := same_array_iff.1 h
      cases hws
  | _ =>
    refine .inr ⟨nofun, ?_, h⟩
    rintro ws rfl
    obtain ⟨vs, hvs, -⟩ := same_array_iff.1 (same_symm h)
    cases hvs

/-- Both are objects with alike fields, both are arrays of them, or neither is one of these and they
are the same. -/
theorem record_forms (h : record fields v w) :
    (∃ ms ns, v = .object ms ∧ w = .object ns ∧ MembersAlike fields (.object ms) (.object ns))
      ∨ (∃ vs ws, v = .array vs ∧ w = .array ws ∧ vs.length = ws.length
        ∧ MembersAlike fields (underNames fields vs) (underNames fields ws))
      ∨ ((∀ ms, v ≠ .object ms) ∧ ∀ vs, v ≠ .array vs)
        ∧ ((∀ ns, w ≠ .object ns) ∧ ∀ ws, w ≠ .array ws) ∧ same v w := by
  cases v with
  | object ms =>
    cases w with
    | object ns => exact .inl ⟨ms, ns, rfl, rfl, h⟩
    | _ =>
      obtain ⟨ns, hns, -⟩ := same_object_iff.1 h
      cases hns
  | array vs =>
    cases w with
    | array ws => exact .inr (.inl ⟨vs, ws, rfl, rfl, h.1, h.2⟩)
    | _ =>
      obtain ⟨ws, hws, -⟩ := same_array_iff.1 h
      cases hws
  | _ =>
    refine .inr (.inr ⟨⟨nofun, nofun⟩, ⟨?_, ?_⟩, h⟩)
    · rintro ns rfl
      obtain ⟨ms, hms, -⟩ := same_object_iff.1 (same_symm h)
      cases hms
    · rintro ws rfl
      obtain ⟨vs, hvs, -⟩ := same_array_iff.1 (same_symm h)
      cases hvs

/-! ## 2. Lawful likenesses -/

/-- What is the same once it is sorted is alike, and only null is like null. -/
structure Lawful (l : Likeness) : Prop where
  of_same : ∀ ⦃v w⦄, v.DistinctKeys → w.DistinctKeys → same v w → l v w
  null_iff : ∀ ⦃v w⦄, l v w → (v = .null ↔ w = .null)

theorem null_iff_of_same (h : same v w) : v = .null ↔ w = .null := by
  rw [← sorted_eq_null_iff (v := v), ← sorted_eq_null_iff (v := w)]
  exact Eq.congr_left h

/-- Sameness is lawful. -/
theorem lawful_same : Lawful same where
  of_same _ _ _ _ h := h
  null_iff _ _ h := null_iff_of_same h

/-- Items that are the same are alike one by one. -/
theorem Lawful.forall₂ (hl : l.Lawful) (hvs : ∀ v ∈ vs, v.DistinctKeys)
    (hws : ∀ w ∈ ws, w.DistinctKeys) (h : ws.map Value.sorted = vs.map Value.sorted) :
    List.Forall₂ l vs ws := by
  induction vs generalizing ws with
  | nil =>
    obtain rfl := List.map_eq_nil_iff.1 h
    exact .nil
  | cons v vs ih =>
    obtain ⟨w, ws, rfl, hvw, hrest⟩ := List.map_eq_cons_iff.1 h
    rw [List.forall_mem_cons] at hvs hws
    exact .cons (hl.of_same hvs.1 hws.1 hvw.symm) (ih hvs.2 hws.2 hrest)

/-- Arrays are compared lawfully if their items are. -/
theorem Lawful.arrayOf (hl : l.Lawful) : (arrayOf l).Lawful where
  of_same v w hv hw h := by
    cases v with
    | array vs =>
      obtain ⟨ws, rfl, heq⟩ := same_array_iff.1 h
      have hvs := ((Value.everywhere_array vs).1 hv).2
      have hws := ((Value.everywhere_array ws).1 hw).2
      exact hl.forall₂ hvs hws heq
    | _ => exact h
  null_iff v w h := by
    obtain ⟨vs, ws, rfl, rfl, -⟩ | ⟨-, -, hsame⟩ := arrayOf_forms h
    · exact ⟨nofun, nofun⟩
    · exact null_iff_of_same hsame

/-- Objects that are the same once they are sorted have the same members. -/
theorem members_of_same (hlawful : ∀ f ∈ fields, f.2.Lawful)
    (hms : (Value.object ms).DistinctKeys) (hns : (Value.object ns).DistinctKeys)
    (h : sortedMembers ns [] = sortedMembers ms []) :
    MembersAlike fields (.object ms) (.object ns) := by
  obtain ⟨hmkeys, hminside⟩ := (Value.everywhere_object ms).1 hms
  obtain ⟨hnkeys, hninside⟩ := (Value.everywhere_object ns).1 hns
  intro f hf
  have hfound : ((Value.object ms).member? f.1).map Value.sorted
      = ((Value.object ns).member? f.1).map Value.sorted := by
    rw [← member?_sortedMembers hmkeys, ← member?_sortedMembers hnkeys, h]
  cases hv : (Value.object ms).member? f.1 with
  | none =>
    rw [hv, Option.map_none, eq_comm, Option.map_eq_none_iff] at hfound
    rw [hfound]
    exact .none
  | some v =>
    rw [hv, Option.map_some, eq_comm, Option.map_eq_some_iff] at hfound
    obtain ⟨w, hw, hsame⟩ := hfound
    have hvkeys := hminside (f.1, v) (mem_of_member?_eq_some hv)
    have hwkeys := hninside (f.1, w) (mem_of_member?_eq_some hw)
    rw [hw]
    exact .some ((hlawful f hf).of_same hvkeys hwkeys hsame.symm)

/-- Items under different names make an object without a key twice. -/
theorem distinctKeys_underNames (hnames : (fields.map Prod.fst).Nodup)
    (h : ∀ v ∈ vs, v.DistinctKeys) : (underNames fields vs).DistinctKeys := by
  refine (Value.everywhere_object _).2 ⟨?_, fun m hm => h m.2 (List.of_mem_zip hm).2⟩
  exact hnames.sublist (keys_zip_sublist _ vs)

theorem sortedMembers_zip_eq {names : List String}
    (h : ws.map Value.sorted = vs.map Value.sorted) :
    sortedMembers (names.zip ws) [] = sortedMembers (names.zip vs) [] := by
  have hvalues (items : List Value) :
      sortedValues (names.zip items) = names.zip (items.map Value.sorted) := by
    rw [sortedValues, List.zip_map_right]
    rfl
  rw [sortedMembers_eq, sortedMembers_eq, hvalues, hvalues, h]

/-- Records are compared lawfully if their fields are, whether they are objects or arrays. -/
theorem Lawful.record (hnames : (fields.map Prod.fst).Nodup)
    (hlawful : ∀ f ∈ fields, f.2.Lawful) : (record fields).Lawful where
  of_same v w hv hw h := by
    cases v with
    | object ms =>
      obtain ⟨ns, rfl, heq⟩ := same_object_iff.1 h
      exact members_of_same hlawful hv hw heq
    | array vs =>
      obtain ⟨ws, rfl, heq⟩ := same_array_iff.1 h
      have hvs := ((Value.everywhere_array vs).1 hv).2
      have hws := ((Value.everywhere_array ws).1 hw).2
      refine ⟨by simpa using (congrArg List.length heq).symm, ?_⟩
      exact members_of_same hlawful (distinctKeys_underNames hnames hvs)
        (distinctKeys_underNames hnames hws) (sortedMembers_zip_eq heq)
    | _ => exact h
  null_iff v w h := by
    obtain ⟨ms, ns, rfl, rfl, -⟩ | ⟨vs, ws, rfl, rfl, -⟩ | ⟨-, -, hsame⟩ := record_forms h
    · exact ⟨nofun, nofun⟩
    · exact ⟨nofun, nofun⟩
    · exact null_iff_of_same hsame

end Likeness

/-! ## 3. Decoders -/

open Likeness

namespace Decoder

variable {α β : Type} {read : Decoder α} {l : Likeness}

/-- A decoder reads the same from alike values, wherever they come from and however deep they may be
nested. -/
structure Agrees (read : Decoder α) (l : Likeness) : Prop where
  lawful : l.Lawful
  reads : ∀ ⦃o o' d d' v w⦄, v.DistinctKeys → w.DistinctKeys → v.nesting ≤ d → w.nesting ≤ d' →
    l v w → ∀ a, read o d v.raw = .ok a ↔ read o' d' w.raw = .ok a

/-- A decoder that makes something of any sorted value reads the same where the sorted values are
the same. -/
theorem agrees_of_sorted {f : Value → α}
    (h : ∀ {o : Origin} {d : Depth} {v : Value},
      v.nesting ≤ d → read o d v.raw = .ok (f v.sorted)) : read.Agrees same where
  lawful := lawful_same
  reads o o' d d' v w _ _ hd hd' hsame a := by
    rw [h hd, h hd', show v.sorted = w.sorted from hsame]

theorem agrees_value : value.Agrees same :=
  agrees_of_sorted (f := id) value_eq_ok

/-- Scalars are read as the same text from values that are the same. -/
theorem agrees_scalar : scalar.Agrees same :=
  agrees_of_sorted (f := Value.asText) scalar_eq_ok

theorem agrees_lenientText : lenientText.Agrees same :=
  agrees_of_sorted (f := fun v => v.asText.getD "") lenientText_eq_ok

/-- Texts are read from texts only, which are the same if they are equal. -/
theorem agrees_text : text.Agrees same where
  lawful := lawful_same
  reads o o' d d' v w _ _ _ _ hsame s := by
    rw [text_eq_ok_iff, text_eq_ok_iff, ← sorted_eq_text_iff, ← sorted_eq_text_iff (v := w)]
    exact Eq.congr_left hsame

/-- What is made of the results of a decoder agrees as this decoder does. -/
theorem Agrees.map (h : read.Agrees l) {read' : Decoder β} {f : α → β}
    (hread : ∀ {o : Origin} {d : Depth} {v : Value} {b : β},
      read' o d v.raw = .ok b ↔ ∃ a, read o d v.raw = .ok a ∧ b = f a) : read'.Agrees l where
  lawful := h.lawful
  reads o o' d d' v w hv hw hd hd' hlike b := by
    rw [hread, hread]
    exact exists_congr fun a => and_congr_left' (h.reads hv hw hd hd' hlike a)

/-- Null is like nothing but null. -/
theorem Agrees.nullable (h : read.Agrees l) : (nullable read).Agrees l where
  lawful := h.lawful
  reads o o' d d' v w hv hw hd hd' hlike a := by
    have hreads (b : α) : read o d v.raw = .ok b ↔ read o' d' w.raw = .ok b :=
      h.reads hv hw hd hd' hlike b
    rw [nullable_raw_eq_ok_iff, nullable_raw_eq_ok_iff, h.lawful.null_iff hlike]
    simp only [ne_eq, h.lawful.null_iff hlike, hreads]

/-- A value out of place is out of place in every order of its members. -/
theorem Agrees.orDefault {default : α} (h : read.Agrees l) : (orDefault default read).Agrees l where
  lawful := h.lawful
  reads o o' d d' v w hv hw hd hd' hlike a := by
    have hreads : read o d v.raw = .ok a ↔ read o' d' w.raw = .ok a :=
      h.reads hv hw hd hd' hlike a
    rw [orDefault_raw_eq_ok_iff, orDefault_raw_eq_ok_iff, ne_eq, h.lawful.null_iff hlike, hreads]

/-- Alike items are read as the same list. -/
theorem Agrees.forall₂_iff (h : read.Agrees l) {o o' : Origin} {d d' : Depth} {vs ws : List Value}
    (hvs : ∀ v ∈ vs, v.DistinctKeys ∧ v.nesting ≤ d)
    (hws : ∀ w ∈ ws, w.DistinctKeys ∧ w.nesting ≤ d') (hlike : List.Forall₂ l vs ws)
    (as : List α) :
    List.Forall₂ (fun v a => read o d v.raw = .ok a) vs as
      ↔ List.Forall₂ (fun w a => read o' d' w.raw = .ok a) ws as := by
  induction hlike generalizing as with
  | nil => rw [List.forall₂_nil_left_iff, List.forall₂_nil_left_iff]
  | @cons v w vs ws hvw _ ih =>
    rw [List.forall_mem_cons] at hvs hws
    have hhead (a : α) : read o d v.raw = .ok a ↔ read o' d' w.raw = .ok a :=
      h.reads hvs.1.1 hws.1.1 hvs.1.2 hws.1.2 hvw a
    simp only [List.forall₂_cons_left_iff, hhead, ih hvs.2 hws.2]

/-- Lists agree if their items do. -/
theorem Agrees.list (h : read.Agrees l) : (list read).Agrees (arrayOf l) where
  lawful := h.lawful.arrayOf
  reads o o' d d' v w hv hw hd hd' hlike as := by
    obtain ⟨vs, ws, rfl, rfl, hitems⟩ | ⟨hvforms, hwforms, -⟩ := arrayOf_forms hlike
    · obtain ⟨d, rfl, hvdepth⟩ := exists_of_nesting_array_le hd
      obtain ⟨d', rfl, hwdepth⟩ := exists_of_nesting_array_le hd'
      have hvkeys := ((Value.everywhere_array vs).1 hv).2
      have hwkeys := ((Value.everywhere_array ws).1 hw).2
      rw [list_array_eq_ok_iff, list_array_eq_ok_iff]
      exact h.forall₂_iff (fun v hv => ⟨hvkeys v hv, hvdepth v hv⟩)
        (fun w hw => ⟨hwkeys w hw, hwdepth w hw⟩) hitems as
    · constructor
      · intro hread
        obtain ⟨vs, hvs⟩ := exists_of_list_eq_ok hread
        exact absurd hvs (hvforms vs)
      · intro hread
        obtain ⟨ws, hws⟩ := exists_of_list_eq_ok hread
        exact absurd hws (hwforms ws)

/-- Members make a dictionary by being sorted. -/
theorem entries_ofList_sortedValues (ms : List (String × Value)) :
    (Dictionary.ofList (sortedValues ms)).entries = sortedMembers ms [] := by
  have hfold (es : List (String × Value)) (done : Dictionary Value) :
      (es.foldl (fun d e => d.insert e.1 e.2) done).entries
        = es.foldl (fun done m => insertAscending m.1 m.2 done) done.entries := by
    induction es generalizing done with
    | nil => rfl
    | cons e es ih => exact ih (done.insert e.1 e.2)
  rw [Dictionary.ofList, hfold, sortedMembers_eq]
  rfl

/-- A map of any values is read the same from the same sorted values. -/
theorem agrees_map : (map value).Agrees same where
  lawful := lawful_same
  reads o o' d d' v w _ _ hd hd' hsame m := by
    cases v with
    | object ms =>
      obtain ⟨ns, rfl, heq⟩ := same_object_iff.1 hsame
      obtain ⟨d, rfl, hmdepth⟩ := exists_of_nesting_object_le hd
      obtain ⟨d', rfl, hndepth⟩ := exists_of_nesting_object_le hd'
      have hentries : Dictionary.ofList (sortedValues ms) = .ofList (sortedValues ns) := by
        apply Dictionary.eq_of_entries_eq
        rw [entries_ofList_sortedValues, entries_ofList_sortedValues, heq]
      rw [map_object_eq_ok hmdepth, map_object_eq_ok hndepth, ← sortedValues, ← sortedValues,
        hentries]
    | _ =>
      constructor
      · intro hread
        obtain ⟨ms, hms⟩ := exists_of_map_eq_ok hread
        cases hms
      · intro hread
        obtain ⟨ns, rfl⟩ := exists_of_map_eq_ok hread
        obtain ⟨ms, hms, -⟩ := same_object_iff.1 (same_symm hsame)
        cases hms

end Decoder

/-! ## 4. Records -/

variable {σ ρ : Type}

/-- A field agrees with a likeness under its name. -/
structure RecordField.Agrees (f : RecordField σ) (l : String × Likeness) : Prop where
  name_eq : f.name = l.1
  read : f.read.Agrees l.2

/-- A field agrees if its decoder does. -/
theorem RecordField.agrees_slot {α : Type} {name : String} {get : σ → Option α}
    {set : Option α → σ → σ} {read : Decoder α} {l : Likeness} (h : read.Agrees l) :
    (slot name get set read).Agrees (name, l) where
  name_eq := rfl
  read := by
    refine h.map (f := fun a => set (some a)) fun {o d v p} => ?_
    dsimp only [slot]
    cases read o d v.raw <;> simp [Except.map, eq_comm]

/-- Either nothing was found twice, or two things that are related. -/
theorem optionRel_forms {α β : Type} {R : α → β → Prop} {x : Option α} {y : Option β}
    (h : Option.Rel R x y) : x = none ∧ y = none ∨ ∃ a b, x = some a ∧ y = some b ∧ R a b := by
  cases h with
  | none => exact .inl ⟨rfl, rfl⟩
  | some hab => exact .inr ⟨_, _, rfl, rfl, hab⟩

/-- Only what the fields find and make of it matters to a look-up. -/
theorem gather_eq_ok_iff_of_rel {o o' : Origin} {d d' : Depth} {look look' : String → Option Raw}
    {fields : List (RecordField σ)}
    (h : ∀ f ∈ fields, Option.Rel
      (fun r r' => ∀ put, f.read o d r = .ok put ↔ f.read o' d' r' = .ok put)
      (look f.name) (look' f.name)) (s s' : σ) :
    gather o d look fields s = .ok s' ↔ gather o' d' look' fields s = .ok s' := by
  induction fields generalizing s with
  | nil => exact Iff.rfl
  | cons f fields ih =>
    obtain ⟨hf, hrest⟩ := List.forall_mem_cons.1 h
    obtain ⟨hr, hr'⟩ | ⟨r, r', hr, hr', hread⟩ := optionRel_forms hf
    · rw [gather_cons_of_none hr, gather_cons_of_none hr']
      exact ih hrest s
    · rw [gather_cons_eq_ok_iff hr, gather_cons_eq_ok_iff hr']
      exact exists_congr fun put => and_congr (hread put) (ih hrest (put s))

namespace RecordKind

/-- A kind of record has fields that agree with likenesses under their names. -/
structure Agrees (k : RecordKind σ ρ) (fields : List (String × Likeness)) : Prop where
  sound : k.Sound
  fields : List.Forall₂ RecordField.Agrees k.fields fields

/-- What is read as a record is an object or an array. -/
theorem object_or_array_of_decoder_eq_ok {k : RecordKind σ ρ} {o : Origin} {d : Depth} {v : Value} {a : ρ}
    (h : k.decoder o d v.raw = .ok a) :
    (∃ ms, v = .object ms) ∨ ∃ vs, v = .array vs := by
  cases v with
  | object ms => exact .inl ⟨ms, rfl⟩
  | array vs => exact .inr ⟨vs, rfl⟩
  | _ => simp [decoder, Value.raw] at h

variable {k : RecordKind σ ρ} {fields : List (String × Likeness)} {o o' : Origin} {d d' : Depth}
  {ms ns : List (String × Value)}

theorem Agrees.names_eq (h : k.Agrees fields) : k.fields.map (·.name) = fields.map Prod.fst := by
  rw [← List.forall₂_eq_eq_eq, List.forall₂_map_left_iff, List.forall₂_map_right_iff]
  exact h.fields.imp fun f l hfl => hfl.name_eq

/-- Every field of the record has its likeness. -/
theorem Agrees.exists_likeness (h : k.Agrees fields) {f : RecordField σ} (hf : f ∈ k.fields) :
    ∃ l ∈ fields, f.Agrees l := by
  obtain ⟨i, hi, rfl⟩ := List.getElem_of_mem hf
  have hi' : i < fields.length := h.fields.length_eq ▸ hi
  exact ⟨fields[i], List.getElem_mem hi', h.fields.get hi hi'⟩

/-- Values that make no difference to a record make none when their members are put in order. -/
theorem Agrees.lawful (h : k.Agrees fields) : (record fields).Lawful := by
  have hnames : (fields.map Prod.fst).Nodup := by
    rw [← h.names_eq]
    exact h.sound.nodup_names
  refine Lawful.record hnames fun l hl => ?_
  obtain ⟨i, hi, rfl⟩ := List.getElem_of_mem hl
  have hi' : i < k.fields.length := h.fields.length_eq ▸ hi
  exact (h.fields.get hi' hi).read.lawful

/-- The fields of a record find the same in objects with alike members. -/
theorem Agrees.gather_iff (h : k.Agrees fields)
    (hms : ∀ m ∈ ms, m.2.DistinctKeys ∧ m.2.nesting ≤ d)
    (hns : ∀ n ∈ ns, n.2.DistinctKeys ∧ n.2.nesting ≤ d')
    (hlike : MembersAlike fields (.object ms) (.object ns)) (s s' : σ) :
    gather o d (look ms) k.fields s = .ok s' ↔ gather o' d' (look ns) k.fields s = .ok s' := by
  refine gather_eq_ok_iff_of_rel (fun f hf => ?_) s s'
  obtain ⟨l, hl, hfl⟩ := h.exists_likeness hf
  rw [look_eq_map_member?, look_eq_map_member?, hfl.name_eq]
  obtain ⟨hv, hw⟩ | ⟨v, w, hv, hw, hvw⟩ := optionRel_forms (hlike l hl)
  · rw [hv, hw]
    exact .none
  · have hm := hms (l.1, v) (mem_of_member?_eq_some hv)
    have hn := hns (l.1, w) (mem_of_member?_eq_some hw)
    rw [hv, hw]
    exact .some (hfl.read.reads hm.1 hn.1 hm.2 hn.2 hvw)

/-- A record is read the same from objects with alike fields and from arrays of them. -/
theorem Agrees.decoder (h : k.Agrees fields) : k.decoder.Agrees (record fields) where
  lawful := h.lawful
  reads o o' d d' v w hv hw hd hd' hlike a := by
    obtain ⟨ms, ns, rfl, rfl, hmembers⟩ | ⟨vs, ws, rfl, rfl, hlength, hmembers⟩
      | ⟨hvforms, hwforms, -⟩ := record_forms hlike
    -- two objects: their keys differ, so both are read by look-ups that find alike values
    · obtain ⟨d, rfl, hmdepth⟩ := exists_of_nesting_object_le hd
      obtain ⟨d', rfl, hndepth⟩ := exists_of_nesting_object_le hd'
      obtain ⟨hmkeys, hminside⟩ := (Value.everywhere_object ms).1 hv
      obtain ⟨hnkeys, hninside⟩ := (Value.everywhere_object ns).1 hw
      have hgather (s : σ) : gather o d (look ms) k.fields k.start = .ok s
          ↔ gather o' d' (look ns) k.fields k.start = .ok s :=
        h.gather_iff (fun m hm => ⟨hminside m hm, hmdepth m hm⟩)
          (fun n hn => ⟨hninside n hn, hndepth n hn⟩) hmembers k.start s
      rw [decoder_object_eq_ok_iff h.sound hmkeys, decoder_object_eq_ok_iff h.sound hnkeys]
      exact exists_congr fun s => and_congr_left' (hgather s)
    -- two arrays: their items are looked up under the names of the fields
    · obtain ⟨d, rfl, hvdepth⟩ := exists_of_nesting_array_le hd
      obtain ⟨d', rfl, hwdepth⟩ := exists_of_nesting_array_le hd'
      have hvkeys := ((Value.everywhere_array vs).1 hv).2
      have hwkeys := ((Value.everywhere_array ws).1 hw).2
      rw [underNames, underNames, ← h.names_eq] at hmembers
      have hvnamed : ∀ m ∈ named k.fields vs, m.2.DistinctKeys ∧ m.2.nesting ≤ d := fun m hm =>
        have hm := (List.of_mem_zip hm).2
        ⟨hvkeys m.2 hm, hvdepth m.2 hm⟩
      have hwnamed : ∀ m ∈ named k.fields ws, m.2.DistinctKeys ∧ m.2.nesting ≤ d' := fun m hm =>
        have hm := (List.of_mem_zip hm).2
        ⟨hwkeys m.2 hm, hwdepth m.2 hm⟩
      have hgather (s : σ) : gather o d (look (named k.fields vs)) k.fields k.start = .ok s
          ↔ gather o' d' (look (named k.fields ws)) k.fields k.start = .ok s :=
        h.gather_iff hvnamed hwnamed hmembers k.start s
      rw [decoder_array_eq_ok_iff h.sound, decoder_array_eq_ok_iff h.sound, hlength]
      exact and_congr_right' (exists_congr fun s => and_congr_left' (hgather s))
    -- neither: nothing else is read as a record
    · constructor
      · intro hread
        obtain ⟨ms, hms⟩ | ⟨vs, hvs⟩ := object_or_array_of_decoder_eq_ok hread
        · exact absurd hms (hvforms.1 ms)
        · exact absurd hvs (hvforms.2 vs)
      · intro hread
        obtain ⟨ns, hns⟩ | ⟨ws, hws⟩ := object_or_array_of_decoder_eq_ok hread
        · exact absurd hns (hwforms.1 ns)
        · exact absurd hws (hwforms.2 ws)

end RecordKind

end Widgetry.Json
