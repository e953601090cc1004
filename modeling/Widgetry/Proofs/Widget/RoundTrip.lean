import Widgetry.Proofs.Json.Plain
import Widgetry.Proofs.Json.Results
import Widgetry.Proofs.Widget.Fields
import Widgetry.Widget.Repair
import Widgetry.Widget.Writing

/-!
Written descriptions are read back. A record is written value by value and read value by value, so
each of the four levels of a description needs only that every field reads what is written for it: a
value from its document, and the default where an absent text or an empty list was left out.

Tags are what can go wrong: an unknown kind that carries the tag of a known one is read as the known
one. No description that was decoded has such an element (`ownsTags_decoder`), so parsing inverts
writing on all descriptions that a document can hold (`parse_written`).
-/

namespace Widgetry

open Json

/-! ## 1. Tags -/

/-- The tag of a category is read as this category. -/
theorem Category.ofText_tag (c : Category) : ofText c.tag = c := by
  cases c <;> decide

theorem Validation.ofText_tag (v : Validation) : ofText v.tag = v := by
  cases v <;> decide

theorem Theme.ofText_tag (t : Theme) : ofText t.tag = t := by
  cases t <;> decide

/-- A kind that does not go by the tag of another one. -/
def ElementKind.OwnsTag (k : ElementKind) : Prop :=
  ∀ t, k = .other t → t ∉ known.map tag

/-- No element of an unknown kind carries a known tag. -/
def Description.OwnsTags (d : Description) : Prop :=
  ∀ e ∈ d.elements, e.kind.OwnsTag

/-- A tag that no known kind has is kept as it is. -/
theorem ElementKind.ofTag_eq_other {t : String} (h : t ∉ known.map tag) : ofTag t = .other t := by
  have hnone : known.find? (fun k => k.tag == t) = none := by
    rw [List.find?_eq_none]
    intro k hk heq
    exact h (List.mem_map.2 ⟨k, hk, beq_iff_eq.1 heq⟩)
  rw [ofTag, hnone, Option.getD_none]

/-- The tag of a kind is read as this kind, unless another kind has the same tag. -/
theorem ElementKind.ofTag_tag {k : ElementKind} (h : k.OwnsTag) : ofTag k.tag = k := by
  cases k with
  | other t => exact ofTag_eq_other (h t rfl)
  | _ => decide

/-- Known kinds have tags of their own. -/
theorem ElementKind.ownsTag_of_mem_known {k : ElementKind} (h : k ∈ known) : k.OwnsTag := by
  rintro t rfl
  simp [known] at h

/-- A kind that is made of a tag owns it. -/
theorem ElementKind.ownsTag_ofTag (t : String) : (ofTag t).OwnsTag := by
  by_cases ht : t ∈ known.map tag
  · obtain ⟨k, hk, rfl⟩ := List.mem_map.1 ht
    rw [ofTag_tag (ownsTag_of_mem_known hk)]
    exact ownsTag_of_mem_known hk
  · rw [ofTag_eq_other ht]
    intro t' h
    exact ElementKind.other.inj h ▸ ht

/-! ## 2. Fields -/

variable {o : Origin} {d : Depth}

/-- A member that is left out if there is no text, as an optional value. -/
theorem optionalMember_eq (key : String) (s : Option String) :
    optionalMember key s = member key (s.map .text) := by
  cases s <;> rfl

/-- The value of a field that is left out when it is empty. -/
def unlessEmpty {α : Type} (empty : Bool) (a : α) : Option α :=
  if empty then none else some a

theorem listMember_eq {α : Type} (key : String) (write : α → Value) (items : List α) :
    listMember key write items
      = member key (unlessEmpty items.isEmpty (.array (items.map write))) := by
  cases items <;> rfl

/-- A member with a text is read as this text. -/
theorem readOptional_text (s : String) :
    readOptional Decoder.lenientText o d (some (.text s)) = .ok (some s) := rfl

/-- A text that may be absent is read as it was written, absent or not. -/
theorem readOptional_scalar (s : Option String) :
    readOptional Decoder.scalar o d (s.map .text) = .ok (s.map some) := by
  cases s <;> rfl

/-- A member with a tag is read as what the tag stands for. -/
theorem readOptional_tag {α : Type} {default : α} {ofText : String → α} {tag : String} {a : α}
    (h : ofText tag = a) :
    readOptional (Element.tagged default ofText) o d (some (.text tag)) = .ok (some a) :=
  h ▸ rfl

/-- A member that is left out when it has nothing to say is read if it is there. -/
theorem readOptional_unlessEmpty {α : Type} {read : Decoder α} {v : Value} {a : α} (empty : Bool)
    (h : read o d v.raw = .ok a) :
    readOptional read o d (unlessEmpty empty v) = .ok (unlessEmpty empty a) := by
  cases empty
  · exact readOptional_some h
  · rfl

theorem getD_map_some (s : Option String) : (s.map some).getD none = s := by
  cases s <;> rfl

/-- Where such a member is left out its default stands for it. -/
theorem getD_unlessEmpty {α : Type} {empty : Bool} {a default : α}
    (h : empty = true → a = default) : (unlessEmpty empty a).getD default = a := by
  cases empty
  · rfl
  · exact (h rfl).symm

theorem Dictionary.eq_empty_of_isEmpty {α : Type} {m : Dictionary α} (h : m.isEmpty = true) :
    m = .empty := by
  obtain ⟨entries, hentries⟩ := m
  obtain rfl : entries = [] := List.isEmpty_iff.1 h
  rfl

/-! ## 3. Elements -/

/-- A list of texts is read as it was written. -/
theorem Element.textList_texts (ts : List String) :
    textList o (d + 1) (Value.array (ts.map .text)).raw = .ok ts := by
  rw [textList_eq_ok_iff]
  refine ⟨ts.map .text, ?_, ?_⟩
  · rw [Decoder.orDefault_raw_eq_ok_iff]
    refine .inr ⟨by simp, ?_⟩
    rw [Decoder.list_array_eq_ok_iff, List.forall₂_map_left_iff, List.forall₂_map_right_iff,
      List.forall₂_same]
    exact fun t _ => Decoder.value_eq_ok (Nat.zero_le d)
  · rw [List.filterMap_map]
    exact List.filterMap_some.symm

/-- A style is read with its properties as they were written. -/
theorem Element.styleMap_texts (style : Dictionary String) :
    styleMap o (d + 1) (Value.object (style.entries.map fun (k, v) => (k, .text v))).raw
      = .ok style := by
  let texts : Dictionary Value := style.filterMap fun s => some (.text s)
  have hentries : texts.entries = style.entries.map fun (k, v) => (k, .text v) := by
    simp [texts, Dictionary.filterMap]
  have hback : texts.filterMap Value.asText = style := by
    obtain ⟨entries, h⟩ := style
    simp [texts, Dictionary.filterMap, Value.asText]
  rw [styleMap_eq_ok_iff, ← hentries]
  refine ⟨texts, Decoder.orDefault_raw_eq_ok_iff.2 (.inr ⟨by simp, ?_⟩), hback.symm⟩
  have hsorted : texts.entries.map (fun m => (m.1, m.2.sorted)) = texts.entries := by
    rw [hentries, List.map_map]
    exact List.map_congr_left fun m _ => by simp [Value.sorted]
  have hflat : ∀ m ∈ texts.entries, m.2.nesting ≤ d := by
    rw [hentries, List.forall_mem_map]
    exact fun m _ => Nat.zero_le d
  rw [Decoder.map_object_eq_ok hflat, hsorted, Dictionary.ofList_entries]

/-- The values of an element's fields. -/
def Element.values (e : Element) : List (Option Value) :=
  [some (.text e.kind.tag), some (.text e.id), some (.text e.label), e.placeholder.map .text,
   unlessEmpty e.options.isEmpty (.array (e.options.map .text)), some (.text e.validation.tag),
   e.defaultValue.map .text,
   unlessEmpty e.style.isEmpty (.object (e.style.entries.map fun (k, v) => (k, .text v)))]

/-- An element is written field by field, in the order of its record. -/
theorem Element.value_eq (e : Element) :
    e.value = .object (written (record.fields.map (·.name)) e.values) := by
  have hstyle (v : Value) :
      (if e.style.isEmpty then [] else [("style", v)])
        = member "style" (unlessEmpty e.style.isEmpty v) := by
    cases e.style.isEmpty <;> rfl
  rw [value, optionalMember_eq, optionalMember_eq, listMember_eq, hstyle]
  simp [record, fields, RecordField.slot, values, written, member]

/-- An element whose kind owns its tag is read as it was written. The depth is what its style needs.
-/
theorem Element.decoder_value {e : Element} (he : e.kind.OwnsTag) :
    record.decoder o (d + 2) e.value.raw = .ok e := by
  rw [value_eq]
  refine RecordKind.decoder_written_eq_ok record_sound
    (readValues_slot (readOptional_tag (ElementKind.ofTag_tag he)) rfl <|
     readValues_slot (readOptional_text e.id) rfl <|
     readValues_slot (readOptional_text e.label) rfl <|
     readValues_slot (readOptional_scalar e.placeholder) rfl <|
     readValues_slot (readOptional_unlessEmpty _ (textList_texts e.options)) rfl <|
     readValues_slot (readOptional_tag (Validation.ofText_tag e.validation)) rfl <|
     readValues_slot (readOptional_scalar e.defaultValue) rfl <|
     readValues_slot (readOptional_unlessEmpty _ (styleMap_texts e.style)) rfl rfl) ?_
  simp only [record, required, bind, Except.bind, pure, Except.pure, Option.getD_some,
    getD_map_some, getD_unlessEmpty List.isEmpty_iff.1,
    getD_unlessEmpty Dictionary.eq_empty_of_isEmpty]

/-! ## 4. Logic and styling -/

/-- A list of written records is read back. -/
theorem orDefault_list_map_eq_ok {α : Type} {write : α → Value} {read : Decoder α} {as : List α}
    (h : ∀ a ∈ as, read o d (write a).raw = .ok a) :
    Decoder.orDefault [] (Decoder.list read) o (d + 1) (Value.array (as.map write)).raw
      = .ok as := by
  rw [Decoder.orDefault_raw_eq_ok_iff]
  refine .inr ⟨by simp, ?_⟩
  rw [Decoder.list_array_eq_ok_iff, List.forall₂_map_left_iff, List.forall₂_same]
  exact h

/-- The values of the fields of a condition. -/
def Condition.values (c : Condition) : List (Option Value) :=
  [some (.text c.condition), some (.text c.action)]

theorem Condition.value_eq (c : Condition) :
    c.value = .object (written (record.fields.map (·.name)) c.values) := rfl

/-- A condition is read as it was written. -/
theorem Condition.decoder_value (c : Condition) :
    record.decoder o (d + 1) c.value.raw = .ok c := by
  rw [value_eq]
  exact RecordKind.decoder_written_eq_ok record_sound
    (readValues_slot (readOptional_text c.condition) rfl <|
     readValues_slot (readOptional_text c.action) rfl rfl) rfl

/-- The values of the fields of a styling. -/
def Styling.values (s : Styling) : List (Option Value) :=
  [some (.text s.theme.tag), some (.text s.primaryColor), some (.text s.secondaryColor),
   some (.text s.fontFamily)]

theorem Styling.value_eq (s : Styling) :
    s.value = .object (written (record.fields.map (·.name)) s.values) := rfl

/-- Styling is read as it was written. -/
theorem Styling.decoder_value (s : Styling) :
    record.decoder o (d + 1) s.value.raw = .ok s := by
  rw [value_eq]
  exact RecordKind.decoder_written_eq_ok record_sound
    (readValues_slot (readOptional_tag (Theme.ofText_tag s.theme)) rfl <|
     readValues_slot (readOptional_some rfl) rfl <|
     readValues_slot (readOptional_some rfl) rfl <|
     readValues_slot (readOptional_some rfl) rfl rfl) rfl

/-- The values of the fields of the logic. -/
def Logic.values (l : Logic) : List (Option Value) :=
  [l.onSubmit.map .text, l.onChange.map .text,
   unlessEmpty l.calculations.isEmpty (.array (l.calculations.map .text)),
   unlessEmpty l.conditions.isEmpty (.array (l.conditions.map Condition.value))]

theorem Logic.value_eq (l : Logic) :
    l.value = .object (written (record.fields.map (·.name)) l.values) := by
  rw [value, optionalMember_eq, optionalMember_eq, listMember_eq, listMember_eq]
  simp [record, RecordField.slot, values, written]

/-- Logic is read as it was written. -/
theorem Logic.decoder_value (l : Logic) : record.decoder o (d + 3) l.value.raw = .ok l := by
  rw [value_eq]
  refine RecordKind.decoder_written_eq_ok record_sound
    (readValues_slot (readOptional_scalar l.onSubmit) rfl <|
     readValues_slot (readOptional_scalar l.onChange) rfl <|
     readValues_slot (readOptional_unlessEmpty _ (Element.textList_texts l.calculations)) rfl <|
     readValues_slot (readOptional_unlessEmpty _
       (orDefault_list_map_eq_ok fun c _ => c.decoder_value)) rfl rfl) ?_
  simp only [record, getD_map_some, getD_unlessEmpty List.isEmpty_iff.1]

/-! ## 5. Descriptions -/

/-- The values of the fields of a description. -/
def Description.values (d : Description) : List (Option Value) :=
  [some (.text d.category.tag), some (.text d.title), d.description.map .text,
   some (.array (d.elements.map Element.value)), d.logic.map Logic.value,
   d.styling.map Styling.value]

/-- A description is written field by field, in the order of its record. -/
theorem Description.value_eq (d : Description) :
    d.value = .object (written (record.fields.map (·.name)) d.values) := by
  obtain ⟨category, title, description, elements, logic, styling⟩ := d
  rw [value, optionalMember_eq]
  cases logic <;> cases styling <;>
    simp [record, RecordField.slot, values, written, member]

/-- A field that may be null is read as it was written, if nothing is written as null but its
absence. -/
theorem readOptional_nullable {α : Type} {read : Decoder α} {write : α → Value} {a : Option α}
    (h : ∀ b, a = some b → write b ≠ .null ∧ read o d (write b).raw = .ok b) :
    readOptional (Decoder.nullable read) o d (a.map write) = .ok (a.map some) := by
  cases a with
  | none => rfl
  | some b =>
    obtain ⟨hne, hb⟩ := h b rfl
    exact readOptional_some (Decoder.nullable_raw_eq_ok_iff.2 (.inr ⟨hne, b, hb, rfl⟩))

/-- A description whose elements own their tags is read as it was written, by either reader. -/
theorem Description.decoder_value {x : Description} (hx : x.OwnsTags) :
    decoder o (d + 4) x.value.raw = .ok x := by
  rw [value_eq, decoder]
  refine RecordKind.decoder_written_eq_ok record_sound
    (readValues_slot (readOptional_tag (Category.ofText_tag x.category)) rfl <|
     readValues_slot (readOptional_text x.title) rfl <|
     readValues_slot (readOptional_scalar x.description) rfl <|
     readValues_slot (readOptional_some
       (orDefault_list_map_eq_ok fun e he => Element.decoder_value (hx e he))) rfl <|
     readValues_slot (readOptional_nullable fun l _ => ⟨nofun, l.decoder_value⟩) rfl <|
     readValues_slot (readOptional_nullable fun s _ => ⟨nofun, s.decoder_value⟩) rfl rfl) ?_
  obtain ⟨category, title, description, elements, logic, styling⟩ := x
  cases description <;> cases logic <;> cases styling <;> rfl

/-! ## 6. Plain documents -/

section

open Value (plain_array plain_object plain_text plain_written)

/-- What is written of an optional part is plain if the part is. -/
theorem plain_of_map {α : Type} {write : α → Value} {a : Option α} {v : Value} {n : Nat}
    (h : ∀ a, (write a).Plain n) (hv : some v = a.map write) : v.Plain n := by
  obtain ⟨b, -, rfl⟩ := Option.map_eq_some_iff.1 hv.symm
  exact h b

theorem plain_of_unlessEmpty {empty : Bool} {v w : Value} {n : Nat} (h : w.Plain n)
    (hv : some v = unlessEmpty empty w) : v.Plain n := by
  cases empty
  · exact Option.some.inj hv ▸ h
  · simp [unlessEmpty] at hv

/-- An array of plain values is plain, one level deeper. -/
theorem plain_map {α : Type} {write : α → Value} {n : Nat} (as : List α)
    (h : ∀ a, (write a).Plain n) : (Value.array (as.map write)).Plain (n + 1) :=
  plain_array (List.forall_mem_map.2 fun a _ => h a)

theorem Element.plain_style (style : Dictionary String) :
    (Value.object (style.entries.map fun (k, v) => (k, .text v))).Plain 1 := by
  have hkeys : (style.entries.map fun (k, v) => (k, Value.text v)).map Prod.fst
      = style.entries.map Prod.fst := by
    rw [List.map_map]
    rfl
  refine plain_object ?_ (List.forall_mem_map.2 fun (_, t) _ => plain_text t 0)
  rw [hkeys]
  exact nodup_keys_of_ascending style.ascending

/-- An element is plain: its style is an object in an object. -/
theorem Element.plain_value (e : Element) : e.value.Plain 2 := by
  rw [value_eq]
  refine plain_written record_sound.nodup_names fun v hv => ?_
  simp only [values, List.mem_cons, List.not_mem_nil, or_false, Option.some.injEq] at hv
  rcases hv with rfl | rfl | rfl | hv | hv | rfl | hv | hv
  · exact plain_text _ 1
  · exact plain_text _ 1
  · exact plain_text _ 1
  · exact plain_of_map (fun s => plain_text s 1) hv
  · exact plain_of_unlessEmpty (plain_map _ fun s => plain_text s 0) hv
  · exact plain_text _ 1
  · exact plain_of_map (fun s => plain_text s 1) hv
  · exact plain_of_unlessEmpty (plain_style e.style) hv

theorem Condition.plain_value (c : Condition) : c.value.Plain 1 := by
  rw [value_eq]
  refine plain_written record_sound.nodup_names fun v hv => ?_
  simp only [values, List.mem_cons, List.not_mem_nil, or_false, Option.some.injEq] at hv
  rcases hv with rfl | rfl <;> exact plain_text _ 0

theorem Styling.plain_value (s : Styling) : s.value.Plain 1 := by
  rw [value_eq]
  refine plain_written record_sound.nodup_names fun v hv => ?_
  simp only [values, List.mem_cons, List.not_mem_nil, or_false, Option.some.injEq] at hv
  rcases hv with rfl | rfl | rfl | rfl <;> exact plain_text _ 0

theorem Logic.plain_value (l : Logic) : l.value.Plain 3 := by
  rw [value_eq]
  refine plain_written record_sound.nodup_names fun v hv => ?_
  simp only [values, List.mem_cons, List.not_mem_nil, or_false] at hv
  rcases hv with hv | hv | hv | hv
  · exact plain_of_map (fun s => plain_text s 2) hv
  · exact plain_of_map (fun s => plain_text s 2) hv
  · exact plain_of_unlessEmpty (plain_map _ fun s => plain_text s 1) hv
  · exact plain_of_unlessEmpty (plain_map _ Condition.plain_value) hv

/-- A description is plain and four levels deep, which is far from the limit of a reader. -/
theorem Description.plain_value (d : Description) : d.value.Plain 4 := by
  rw [value_eq]
  refine plain_written record_sound.nodup_names fun v hv => ?_
  simp only [values, List.mem_cons, List.not_mem_nil, or_false, Option.some.injEq] at hv
  rcases hv with rfl | rfl | hv | rfl | hv | hv
  · exact plain_text _ 3
  · exact plain_text _ 3
  · exact plain_of_map (fun s => plain_text s 3) hv
  · exact plain_map _ Element.plain_value
  · exact plain_of_map Logic.plain_value hv
  · exact plain_of_map (fun s => s.plain_value.mono (by omega)) hv

/-- What is written of a description can be read back: no key comes twice in it. -/
theorem Description.legible_value (d : Description) : d.value.Legible :=
  d.plain_value.legible

end

namespace Description

/-- A description is parsed from any text that is read as the tree of its document. -/
theorem parse_of_ofText_eq {d : Description} (hd : d.OwnsTags) {text : String}
    (h : Raw.ofText text = (d.value.raw, [])) : parse text = .ok d :=
  (Decoder.ofText_eq_ok_iff h).2 (decoder_value hd)

end Description

/-! ## 7. Parsed descriptions -/

/-- What is read from a tag owns it. A tag of a known kind is never read as another kind. -/
theorem Element.ownsTag_tagged :
    (tagged .text ElementKind.ofTag).Ensures ElementKind.OwnsTag := by
  intro o d r k hk
  obtain ⟨s, -, hk⟩ := exists_of_bind_eq_ok hk
  obtain rfl : (s.map ElementKind.ofTag).getD .text = k := Except.ok.inj hk
  cases s with
  | none => exact ElementKind.ownsTag_of_mem_known (by decide)
  | some t => exact ElementKind.ownsTag_ofTag t

/-- Every element that is read owns its tag. -/
theorem Element.ownsTag_decoder : record.decoder.Ensures fun e => e.kind.OwnsTag := by
  intro o d r e he
  let I (s : Parts) : Prop := ∀ k, s.kind = some k → k.OwnsTag
  have hput : ∀ f ∈ record.fields, ∀ p, f.Puts p → ∀ s, I s → I (p s) := by
    simp only [record, fields, List.forall_mem_cons, List.not_mem_nil, false_implies, implies_true,
      and_true]
    refine ⟨RecordField.keeps_slot fun hk s _ k heq => ?_, ?_⟩
    · exact Option.some.inj heq ▸ ownsTag_tagged hk
    · and_intros <;> exact RecordField.keeps_slot fun _ s hs => hs
  have hstart : I record.start := by simp [I, record]
  obtain ⟨s, hs, hcomplete⟩ := RecordKind.exists_of_decoder_eq_ok hstart hput he
  obtain ⟨id, -, hcomplete⟩ := exists_of_required_bind hcomplete
  obtain rfl := Except.ok.inj hcomplete
  dsimp only
  cases hk : s.kind with
  | none => exact ElementKind.ownsTag_of_mem_known (by decide)
  | some k => exact hs k hk

/-- Every description that is read can be written and read back. -/
theorem Description.ownsTags_decoder : decoder.Ensures OwnsTags := by
  intro o d r x hx
  let I (s : Parts) : Prop := ∀ es, s.elements = some es → ∀ e ∈ es, e.kind.OwnsTag
  have hput : ∀ f ∈ record.fields, ∀ p, f.Puts p → ∀ s, I s → I (p s) := by
    simp only [record, List.forall_mem_cons, List.not_mem_nil, false_implies, implies_true,
      and_true]
    refine ⟨?_, ?_, ?_, RecordField.keeps_slot fun hes s _ es heq => ?_, ?_, ?_⟩
    case refine_4 =>
      exact Option.some.inj heq ▸
        Decoder.Ensures.orDefault (List.forall_mem_nil _) Element.ownsTag_decoder.list hes
    all_goals exact RecordField.keeps_slot fun _ s hs => hs
  have hstart : I record.start := by simp [I, record]
  obtain ⟨s, hs, hcomplete⟩ := RecordKind.exists_of_decoder_eq_ok hstart hput hx
  obtain rfl := Except.ok.inj hcomplete
  cases hes : s.elements with
  | none => simp [OwnsTags]
  | some es => simpa [OwnsTags, hes] using hs es hes

/-- Repair of ids leaves the kinds as they are. -/
theorem Description.ownsTags_repaired {d : Description} (h : d.OwnsTags) :
    d.repaired.OwnsTags := by
  intro e he
  rw [repaired, repairIds] at he
  obtain ⟨i, hi, rfl⟩ := List.mem_iff_getElem.1 he
  simp only [List.getElem_zipWith]
  exact h _ (List.getElem_mem _)

namespace Description

/-- Parsing inverts writing. A description is read back from its compact and from its indented text
exactly if no element of an unknown kind carries a known tag; that holds of whatever is decoded, and
repair keeps it. So a parsed description is written to a text that is read as the same description,
and is written the same again. -/
theorem parse_written :
    (∀ d : Description, (parse d.text = .ok d ↔ d.OwnsTags)
      ∧ (parse d.value.pretty = .ok d ↔ d.OwnsTags)
      ∧ (d.OwnsTags → d.repaired.OwnsTags))
    ∧ (∀ o n r d, decoder o n r = .ok d → d.OwnsTags)
    ∧ ∀ text d, parse text = .ok d →
      d.OwnsTags ∧ parse d.text = .ok d ∧ parse d.value.pretty = .ok d
        ∧ ∀ d', (parse d.text = .ok d' ∨ parse d.value.pretty = .ok d') →
          d'.text = d.text ∧ d'.value.pretty = d.value.pretty := by
  have hparsed {text : String} {d : Description} (h : parse text = .ok d) : d.OwnsTags :=
    ownsTags_decoder.of_ofText h
  have hcompact {d : Description} (hd : d.OwnsTags) : parse d.text = .ok d :=
    parse_of_ofText_eq hd (ofText_compact d.legible_value)
  have hpretty {d : Description} (hd : d.OwnsTags) : parse d.value.pretty = .ok d :=
    parse_of_ofText_eq hd (ofText_pretty d.legible_value)
  refine ⟨fun d => ⟨⟨hparsed, hcompact⟩, ⟨hparsed, hpretty⟩, ownsTags_repaired⟩,
    fun o n r d => ownsTags_decoder, fun text d h => ?_⟩
  have hd := hparsed h
  refine ⟨hd, hcompact hd, hpretty hd, fun d' h' => ?_⟩
  obtain rfl : d = d' := by
    rcases h' with h' | h'
    · exact Except.ok.inj ((hcompact hd).symm.trans h')
    · exact Except.ok.inj ((hpretty hd).symm.trans h')
  exact ⟨rfl, rfl⟩

/-- A description with what is easily lost on the way: tags that are known ones but for a capital or
a blank, blank texts and control characters, lists with one empty text, logic without any hint. -/
def stray : Description where
  category := .quiz
  title := " \u0000\n"
  description := some ""
  elements :=
    [{ Element.plain (.other "Text") "a" "\x1f\"\\" with
       options := [""], style := .ofList [("", "\t")] },
     { Element.plain (.other "input ") "a" "" with defaultValue := some "null" },
     { Element.plain .todoItem "" "\u2028" with validation := .email }]
  logic := some .empty
  styling := some { Styling.default with theme := .colorful }

theorem parse_written_stray :
    stray.OwnsTags ∧ parse stray.text = .ok stray ∧ parse stray.value.pretty = .ok stray
      ∧ stray.repaired.OwnsTags
      ∧ decoder .text deepest stray.value.raw = .ok stray := by
  have htags : stray.OwnsTags := by
    simp only [OwnsTags, stray, List.forall_mem_cons, List.not_mem_nil, false_implies,
      implies_true, and_true]
    simp [ElementKind.OwnsTag, Element.plain]
    decide
  obtain ⟨hwritten, hdecoded, hparsed⟩ := parse_written
  have htext := (hwritten stray).1.2 htags
  have hdecode : decoder .text deepest stray.value.raw = .ok stray := decoder_value htags
  exact ⟨hdecoded _ _ _ _ hdecode, (hparsed _ _ htext).2.1, (hwritten stray).2.1.2 htags,
    (hwritten stray).2.2 htags, hdecode⟩

end Description

end Widgetry
