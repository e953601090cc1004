import Widgetry.Proofs.Json.Decoding
import Widgetry.Proofs.Json.Record
import Widgetry.Widget.Reading

/-!
The records of widget descriptions and the decoders of their fields. The fields of every record keep
to slots of their own, so each record is read field by field. Tags and texts can be made of any
value, lists of texts of null and any array, and styles of null and any object.

The first section is all that the theory of records needs to know of the five kinds of records:
which types their slots have. The second says of each decoder of a field what it reads and what it
accepts, so that no later module has to open a decoder.
-/

namespace Widgetry

open Json

/-! ## 1. Records -/

theorem Element.record_sound : Element.record.Sound :=
  RecordKind.sound_of_slots
    [ElementKind, String, String, Option String, List String, Validation, Option String,
      Dictionary String]
    (fun s => (s.kind, s.id, s.label, s.placeholder, s.options, s.validation, s.defaultValue,
      s.style, ()))
    (fun (a, b, c, d, e, f, g, h, _) => ⟨a, b, c, d, e, f, g, h⟩) (fun _ => rfl)
    (.cons (.cons (.cons (.cons (.cons (.cons (.cons (.cons .nil)))))))) (by decide) rfl

theorem Condition.record_sound : Condition.record.Sound :=
  RecordKind.sound_of_slots [String, String]
    (fun s => (s.condition, s.action, ()))
    (fun (a, b, _) => ⟨a, b⟩) (fun _ => rfl)
    (.cons (.cons .nil)) (by decide) rfl

theorem Logic.record_sound : Logic.record.Sound :=
  RecordKind.sound_of_slots [Option String, Option String, List String, List Condition]
    (fun s => (s.onSubmit, s.onChange, s.calculations, s.conditions, ()))
    (fun (a, b, c, d, _) => ⟨a, b, c, d⟩) (fun _ => rfl)
    (.cons (.cons (.cons (.cons .nil)))) (by decide) rfl

theorem Styling.record_sound : Styling.record.Sound :=
  RecordKind.sound_of_slots [Theme, String, String, String]
    (fun s => (s.theme, s.primaryColor, s.secondaryColor, s.fontFamily, ()))
    (fun (a, b, c, d, _) => ⟨a, b, c, d⟩) (fun _ => rfl)
    (.cons (.cons (.cons (.cons .nil)))) (by decide) rfl

theorem Description.record_sound : Description.record.Sound :=
  RecordKind.sound_of_slots
    [Category, String, Option String, List Element, Option Logic, Option Styling]
    (fun s => (s.category, s.title, s.description, s.elements, s.logic, s.styling, ()))
    (fun (a, b, c, d, e, f, _) => ⟨a, b, c, d, e, f⟩) (fun _ => rfl)
    (.cons (.cons (.cons (.cons (.cons (.cons .nil)))))) (by decide) rfl

/-! ## 2. Decoders of fields -/

namespace Element

variable {o : Origin} {d : Depth} {v : Value}

theorem tagged_eq_ok {α : Type} {default : α} {ofText : String → α} (h : v.nesting ≤ d) :
    tagged default ofText o d v.raw = .ok ((v.sorted.asText.map ofText).getD default) := by
  rw [tagged, Decoder.scalar_eq_ok h]
  rfl

theorem textList_eq_ok_iff {ts : List String} :
    textList o d v.raw = .ok ts
      ↔ ∃ vs, Decoder.orDefault [] (Decoder.list Decoder.value) o d v.raw = .ok vs
        ∧ ts = vs.filterMap Value.asText := by
  rw [textList]
  cases Decoder.orDefault [] (Decoder.list Decoder.value) o d v.raw <;>
    simp [bind, Except.bind, pure, Except.pure, eq_comm]

theorem styleMap_eq_ok_iff {style : Dictionary String} :
    styleMap o d v.raw = .ok style
      ↔ ∃ m, Decoder.orDefault .empty (Decoder.map Decoder.value) o d v.raw = .ok m
        ∧ style = m.filterMap Value.asText := by
  rw [styleMap]
  cases Decoder.orDefault .empty (Decoder.map Decoder.value) o d v.raw <;>
    simp [bind, Except.bind, pure, Except.pure, eq_comm]

end Element

end Widgetry
