import Widgetry.Proofs.Widget.Agreement
import Widgetry.Proofs.Widget.RoundTrip

/-!
Responses as documents. A response is read back from every text that it is saved as, whether as a
response (`Response.parse_saved`) or as the widget of a file (`CommandLine.Saved.parse_response`,
`CommandLine.Saved.parse_description`), provided that its description owns its tags. That holds of
whatever was decoded.

A response goes to clients, into caches that keep texts, and to files from which the command line
reads it again; all three rest on these statements, and all of them read it with the same record.
-/

namespace Widgetry

open Json

namespace Response

variable {o : Origin} {d : Depth}

/-! ## 1. The record -/

theorem record_sound : record.Sound :=
  RecordKind.sound_of_slots [String, Description, String, String, String]
    (fun s => (s.widgetId, s.widget, s.reactCode, s.embedCode, s.timestamp, ()))
    (fun (a, b, c, d, e, _) => ⟨a, b, c, d, e⟩) (fun _ => rfl)
    (.cons (.cons (.cons (.cons (.cons .nil))))) (by decide) rfl

/-- Which values make no difference to the fields of a response. -/
def likenesses : List (String × Likeness) :=
  [("widget_id", .same), ("widget_data", Description.Alike), ("react_code", .same),
   ("embed_code", .same), ("timestamp", .same)]

theorem agrees : record.Agrees likenesses where
  sound := record_sound
  fields :=
    .cons (RecordField.agrees_slot Decoder.agrees_text) <|
    .cons (RecordField.agrees_slot Description.decoder_agrees) <|
    .cons (RecordField.agrees_slot Decoder.agrees_text) <|
    .cons (RecordField.agrees_slot Decoder.agrees_text) <|
    .cons (RecordField.agrees_slot Decoder.agrees_text) .nil

/-! ## 2. Written responses -/

/-- The values of the fields of a response. -/
def values (r : Response) : List (Option Value) :=
  [some (.text r.widgetId), some r.widget.value, some (.text r.reactCode),
   some (.text r.embedCode), some (.text r.timestamp)]

theorem value_eq (r : Response) :
    r.value = .object (written (record.fields.map (·.name)) r.values) := rfl

theorem decoder_value {r : Response} (h : r.widget.OwnsTags) :
    decoder o (d + 5) r.value.raw = .ok r := by
  rw [value_eq, decoder]
  exact RecordKind.decoder_written_eq_ok record_sound
    (readValues_slot (readOptional_some rfl) rfl <|
     readValues_slot (readOptional_some (Description.decoder_value h)) rfl <|
     readValues_slot (readOptional_some rfl) rfl <|
     readValues_slot (readOptional_some rfl) rfl <|
     readValues_slot (readOptional_some rfl) rfl rfl) rfl

theorem plain_value (r : Response) : r.value.Plain 5 := by
  rw [value_eq]
  refine Value.plain_written record_sound.nodup_names fun v hv => ?_
  simp only [values, List.mem_cons, List.not_mem_nil, or_false, Option.some.injEq] at hv
  rcases hv with rfl | rfl | rfl | rfl | rfl
  · exact Value.plain_text _ 4
  · exact r.widget.plain_value
  · exact Value.plain_text _ 4
  · exact Value.plain_text _ 4
  · exact Value.plain_text _ 4

theorem holds_saved {r : Response} {text : String} (h : r.value.SavedAs text) :
    Holds text r.value :=
  r.plain_value.holds (by decide) h

/-- A response is read back from any text that it is saved as. -/
theorem parse_saved {r : Response} (hr : r.widget.OwnsTags) {text : String}
    (h : r.value.SavedAs text) : parse text = .ok r :=
  (holds_saved h).ofText_eq_ok_iff.2 (decoder_value hr)

/-- What a written response is read as is the response itself. -/
theorem eq_of_parse_text {r r' : Response} (hr : r.widget.OwnsTags)
    (h : parse r.text = .ok r') : r' = r := by
  rw [text, parse_saved hr .compact] at h
  exact (Except.ok.inj h).symm

end Response

theorem Description.holds_saved {d : Description} {text : String} (h : d.value.SavedAs text) :
    Holds text d.value :=
  d.plain_value.holds (by decide) h

/-- A description is read back from any text that it is saved as. -/
theorem Description.parse_saved {d : Description} (hd : d.OwnsTags) {text : String}
    (h : d.value.SavedAs text) : parse text = .ok d :=
  parse_of_ofText_eq hd (holds_saved h).tree

/-! ## 3. Saved widgets -/

namespace CommandLine.Saved

/-- A saved response is recognised, and gives its description and its id. -/
theorem parse_response {r : Response} (hr : r.widget.OwnsTags) {text : String}
    (h : r.value.SavedAs text) : parse text = .ok ⟨r.widget, some r.widgetId⟩ := by
  have hparse : Value.parse text = .ok r.value.sorted :=
    Value.parse_eq_ok_iff.2 ⟨r.value, Response.holds_saved h, rfl⟩
  have hmember : r.value.sorted.member? "widget_data" = some r.widget.value.sorted := by
    rw [Value.member?_sorted r.plain_value.distinctKeys]
    rfl
  have hdecoded : Response.decoder.ofValue r.value.sorted = .ok r :=
    (Response.agrees.decoder.ofValue_sorted (o := .text) r.plain_value r).2
      (Response.decoder_value hr)
  rw [parse, hparse]
  dsimp only
  rw [ofValue, hmember, Option.isSome_some, if_pos rfl, hdecoded]
  rfl

end CommandLine.Saved

end Widgetry
