import Widgetry.Proofs.Json.Printing
import Widgetry.Proofs.Json.Shape
import Widgetry.Proofs.Widget.Fields

/-!
The grammar of widget documents. Each of the five records of a description has a table of its
fields: what a value may be there, and whether the field has to be there. Main statement: whether
from a text in one pass or from a value, a description is read exactly from the values that the
tables admit (`Description.decodes_iff_shape`).

Nearly any value is admitted in most places: tags and texts are made of anything, lists and styles
may be null, and only colors and fonts have to be texts. An element's id is the one field that has
to be there.
-/

namespace Widgetry

open Json

/-! ## 1. Decoders of fields -/

namespace Element

theorem accepts_tagged {α : Type} {default : α} {ofText : String → α} :
    (tagged default ofText).Accepts Shape.any := fun _ _ _ _ hd =>
  ⟨fun _ => rfl, fun _ => ⟨_, tagged_eq_ok hd⟩⟩

theorem accepts_textList : textList.Accepts (Shape.orNull (.arrayOf .any)) := by
  intro o d v hkeys hd
  have haccepts : (Decoder.orDefault [] (Decoder.list Decoder.value)).Accepts _ :=
    Decoder.accepts_value.list.orDefault
  rw [← haccepts (o := o) hkeys hd]
  simp only [textList_eq_ok_iff]
  exact ⟨fun ⟨_, vs, hvs, _⟩ => ⟨vs, hvs⟩, fun ⟨vs, hvs⟩ => ⟨_, vs, hvs, rfl⟩⟩

theorem accepts_styleMap : styleMap.Accepts (Shape.orNull .anyObject) := by
  intro o d v hkeys hd
  have haccepts : (Decoder.orDefault .empty (Decoder.map Decoder.value)).Accepts _ :=
    Decoder.accepts_map.orDefault
  rw [← haccepts (o := o) hkeys hd]
  simp only [styleMap_eq_ok_iff]
  exact ⟨fun ⟨_, m, hm, _⟩ => ⟨m, hm⟩, fun ⟨m, hm⟩ => ⟨_, m, hm, rfl⟩⟩

end Element

/-! ## 2. Tables of fields -/

/-- The fields of an element. -/
def Element.fieldShapes : List FieldShape :=
  [⟨"type", .any, false⟩, ⟨"id", .any, true⟩, ⟨"label", .any, false⟩,
   ⟨"placeholder", .any, false⟩, ⟨"options", .orNull (.arrayOf .any), false⟩,
   ⟨"validation", .any, false⟩, ⟨"defaultValue", .any, false⟩,
   ⟨"style", .orNull .anyObject, false⟩]

/-- What an element may be read from. -/
def Element.shape : Shape := .record Element.fieldShapes

theorem Element.describes : record.Describes fieldShapes where
  sound := record_sound
  fields :=
    .cons (RecordField.describes_slot accepts_tagged _) <|
    .cons (RecordField.describes_slot Decoder.accepts_lenientText _) <|
    .cons (RecordField.describes_slot Decoder.accepts_lenientText _) <|
    .cons (RecordField.describes_slot Decoder.accepts_scalar _) <|
    .cons (RecordField.describes_slot accepts_textList _) <|
    .cons (RecordField.describes_slot accepts_tagged _) <|
    .cons (RecordField.describes_slot Decoder.accepts_scalar _) <|
    .cons (RecordField.describes_slot accepts_styleMap _) .nil
  complete s := by
    cases hid : s.id <;>
      simp [record, fields, fieldShapes, RecordField.slot, required, hid, bind, Except.bind, pure,
        Except.pure]

/-- The fields of a condition. -/
def Condition.fieldShapes : List FieldShape :=
  [⟨"if", .any, false⟩, ⟨"then", .any, false⟩]

/-- What a condition may be read from. -/
def Condition.shape : Shape := .record Condition.fieldShapes

theorem Condition.describes : record.Describes fieldShapes where
  sound := record_sound
  fields :=
    .cons (RecordField.describes_slot Decoder.accepts_lenientText _) <|
    .cons (RecordField.describes_slot Decoder.accepts_lenientText _) .nil
  complete s := by simp [record, fieldShapes]

/-- The fields of the logic. -/
def Logic.fieldShapes : List FieldShape :=
  [⟨"onSubmit", .any, false⟩, ⟨"onChange", .any, false⟩,
   ⟨"calculations", .orNull (.arrayOf .any), false⟩,
   ⟨"conditions", .orNull (.arrayOf Condition.shape), false⟩]

/-- What the logic may be read from. -/
def Logic.shape : Shape := .record Logic.fieldShapes

theorem Logic.describes : record.Describes fieldShapes where
  sound := record_sound
  fields :=
    .cons (RecordField.describes_slot Decoder.accepts_scalar _) <|
    .cons (RecordField.describes_slot Decoder.accepts_scalar _) <|
    .cons (RecordField.describes_slot Element.accepts_textList _) <|
    .cons (RecordField.describes_slot Condition.describes.accepts.list.orDefault _) .nil
  complete s := by simp [record, fieldShapes]

/-- The fields of a styling. -/
def Styling.fieldShapes : List FieldShape :=
  [⟨"theme", .any, false⟩, ⟨"primaryColor", .text, false⟩, ⟨"secondaryColor", .text, false⟩,
   ⟨"fontFamily", .text, false⟩]

/-- What a styling may be read from. -/
def Styling.shape : Shape := .record Styling.fieldShapes

theorem Styling.describes : record.Describes fieldShapes where
  sound := record_sound
  fields :=
    .cons (RecordField.describes_slot Element.accepts_tagged _) <|
    .cons (RecordField.describes_slot Decoder.accepts_text _) <|
    .cons (RecordField.describes_slot Decoder.accepts_text _) <|
    .cons (RecordField.describes_slot Decoder.accepts_text _) .nil
  complete s := by simp [record, fieldShapes]

/-- The fields of a description. -/
def Description.fieldShapes : List FieldShape :=
  [⟨"widgetType", .any, false⟩, ⟨"title", .any, false⟩, ⟨"description", .any, false⟩,
   ⟨"elements", .orNull (.arrayOf Element.shape), false⟩, ⟨"logic", .orNull Logic.shape, false⟩,
   ⟨"styling", .orNull Styling.shape, false⟩]

/-- What a description may be read from. -/
def Description.shape : Shape := .record Description.fieldShapes

theorem Description.describes : record.Describes fieldShapes where
  sound := record_sound
  fields :=
    .cons (RecordField.describes_slot Element.accepts_tagged _) <|
    .cons (RecordField.describes_slot Decoder.accepts_lenientText _) <|
    .cons (RecordField.describes_slot Decoder.accepts_scalar _) <|
    .cons (RecordField.describes_slot Element.describes.accepts.list.orDefault _) <|
    .cons (RecordField.describes_slot Logic.describes.accepts.nullable _) <|
    .cons (RecordField.describes_slot Styling.describes.accepts.nullable _) .nil
  complete s := by simp [record, fieldShapes]

/-! ## 3. Descriptions -/

namespace Description

/-- A description is read exactly from the values of its shape, from a value as well as from any
text that is read as the tree of the value. -/
theorem decodes_iff_shape {v : Value} (hkeys : v.DistinctKeys) :
    ((∃ d, decoder.ofValue v = .ok d) ↔ shape v = true)
      ∧ ∀ text, Raw.ofText text = (v.raw, []) → v.nesting ≤ deepest →
        ((∃ d, parse text = .ok d) ↔ shape v = true) := by
  refine ⟨?_, fun text htext hdepth => ?_⟩
  · simp only [Decoder.ofValue, mapError_eq_ok_iff]
    exact describes.accepts hkeys (Nat.le_refl _)
  · simp only [parse, Decoder.ofText_eq_ok_iff htext]
    exact describes.accepts hkeys hdepth

/-- A document in mixed forms: elements as an array and as an object, styling as an array, logic
without a value, and a member that no field has. -/
def mixed : Value :=
  .object
    [("elements", .array
      [.array [.text "Input", .bool true],
       .object [("options", .array [.null, .array []]), ("id", .null), ("style", .null)]]),
     ("extra", .object [("id", .null), ("title", .null)]),
     ("logic", .null), ("styling", .array [.bool false, .text "red"]), ("title", .array [])]

theorem decodes_iff_shape_mixed :
    mixed.DistinctKeys ∧ Raw.ofText mixed.compact = (mixed.raw, []) ∧ mixed.nesting ≤ deepest
      ∧ shape mixed = true ∧ (∃ d, decoder.ofValue mixed = .ok d)
      ∧ ∃ d, parse mixed.compact = .ok d := by
  have hkeys : mixed.DistinctKeys := by simp [mixed, Value.DistinctKeys, Value.DistinctKeysHere]
  have htext : Raw.ofText mixed.compact = (mixed.raw, []) :=
    ofText_compact (by simp [mixed, Value.Legible, Value.LegibleHere])
  have hdepth : mixed.nesting ≤ deepest := by decide
  have hshape : shape mixed = true := by decide
  obtain ⟨hvalue, hparse⟩ := decodes_iff_shape hkeys
  exact ⟨hkeys, htext, hdepth, hshape, hvalue.2 hshape, (hparse _ htext hdepth).2 hshape⟩

/-- A color that is no text is not admitted. -/
example : shape (.object [("styling", .object [("primaryColor", .null)])]) = false := by decide

end Description

end Widgetry
