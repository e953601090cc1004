import Widgetry.Proofs.Json.Ending
import Widgetry.Widget.Reading

/-!
Descriptions are read from whole texts. However lenient reading is, all of a text is looked at: no
decoder of a description passes over a fault. So a text that is read as a description, if it has no
white space at its ends, begins and ends with brackets of one kind: with braces, or as an array of
the fields with square ones (`Description.ends_of_parse`).

This is what keeps prose out. A reply that begins or ends with words is never read as a description
by itself, however lenient reading is about what stands inside.
-/

namespace Widgetry

open Json (Decoder RecordField exists_of_bind_eq_ok)
open Json.RecordField (wholly_slot)
open Json.RecordKind (wholly_decoder)

namespace Element

theorem wholly_tagged {α : Type} {default : α} {ofText : String → α} :
    (tagged default ofText).Wholly :=
  Decoder.wholly_scalar.map fun _ _ _ _ h =>
    (exists_of_bind_eq_ok h).imp fun _ h => h.1

theorem wholly_textList : textList.Wholly :=
  Decoder.wholly_value.list.orDefault.map fun _ _ _ _ h =>
    (exists_of_bind_eq_ok h).imp fun _ h => h.1

theorem wholly_styleMap : styleMap.Wholly :=
  Decoder.wholly_value.members.orDefault.map fun _ _ _ _ h =>
    (exists_of_bind_eq_ok h).imp fun _ h => h.1

theorem wholly_fields : ∀ f ∈ record.fields, f.Wholly := by
  simp only [record, fields, List.forall_mem_cons]
  exact ⟨wholly_slot wholly_tagged, wholly_slot Decoder.wholly_lenientText,
    wholly_slot Decoder.wholly_lenientText, wholly_slot Decoder.wholly_scalar,
    wholly_slot wholly_textList, wholly_slot wholly_tagged, wholly_slot Decoder.wholly_scalar,
    wholly_slot wholly_styleMap, List.forall_mem_nil _⟩

end Element

open Element (wholly_tagged wholly_textList)

theorem Condition.wholly_fields : ∀ f ∈ record.fields, f.Wholly := by
  simp only [record, List.forall_mem_cons]
  exact ⟨wholly_slot Decoder.wholly_lenientText, wholly_slot Decoder.wholly_lenientText,
    List.forall_mem_nil _⟩

theorem Logic.wholly_fields : ∀ f ∈ record.fields, f.Wholly := by
  simp only [record, List.forall_mem_cons]
  exact ⟨wholly_slot Decoder.wholly_scalar, wholly_slot Decoder.wholly_scalar,
    wholly_slot wholly_textList,
    wholly_slot (wholly_decoder Condition.wholly_fields).list.orDefault, List.forall_mem_nil _⟩

theorem Styling.wholly_fields : ∀ f ∈ record.fields, f.Wholly := by
  simp only [record, List.forall_mem_cons]
  exact ⟨wholly_slot wholly_tagged, wholly_slot Decoder.wholly_text,
    wholly_slot Decoder.wholly_text, wholly_slot Decoder.wholly_text, List.forall_mem_nil _⟩

theorem Description.wholly_fields : ∀ f ∈ record.fields, f.Wholly := by
  simp only [record, List.forall_mem_cons]
  exact ⟨wholly_slot wholly_tagged, wholly_slot Decoder.wholly_lenientText,
    wholly_slot Decoder.wholly_scalar,
    wholly_slot (wholly_decoder Element.wholly_fields).list.orDefault,
    wholly_slot (wholly_decoder Logic.wholly_fields).nullable,
    wholly_slot (wholly_decoder Styling.wholly_fields).nullable, List.forall_mem_nil _⟩

/-- A text without white space at its ends that is read as a description is in braces, or in square
brackets. -/
theorem Description.ends_of_parse {text : String} {d : Description} (h : parse text = .ok d)
    (hfirst : ∀ c, text.toList.head? = some c → Json.isGap c = false)
    (hlast : ∀ c, text.toList.getLast? = some c → Json.isGap c = false) :
    ∃ e ∈ Json.ends, text.toList.head? = some e.1 ∧ text.toList.getLast? = some e.2 :=
  Json.RecordKind.ends_of_ofText wholly_fields h hfirst hlast

end Widgetry
