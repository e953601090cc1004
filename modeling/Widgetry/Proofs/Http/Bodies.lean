import Widgetry.Http.Router
import Widgetry.Proofs.Widget.Response

/-!
Bodies that are read. A body is read exactly if it is announced as a document, is not too long, and
holds what is asked for (`readBody_eq_ok_iff`). A request for an edit is read back from its document
in declared order and in ascending order (`EditRequest.ofText_sorted`), and the description in it
owns its tags.

What a body is asked for is a parameter: the same reader serves requests for a widget, requests for
an edit and responses that come back for export. What is ensured of all that a decoder gives holds
of all that is read from bodies with it (`ensures_of_readBody`), so the handlers work on
descriptions that can be written and read back.
-/

namespace Widgetry.Http

open Json

/-! ## 1. Bodies -/

/-- A request announces its body as a document. -/
def Request.IsAnnounced (request : Request) : Prop :=
  (request.headers.get? "content-type").any isJsonType = true

theorem readBody_eq_ok_iff {α : Type} {read : Decoder α} {request : Request} {a : α} :
    readBody read request = .ok a
      ↔ request.IsAnnounced ∧ request.body.utf8ByteSize ≤ bodyLimit
        ∧ read.ofText request.body = .ok a := by
  rw [readBody, Request.IsAnnounced]
  cases (request.headers.get? "content-type").any isJsonType with
  | false => simp
  | true =>
    rw [Bool.not_true, if_neg (by simp)]
    by_cases hsize : bodyLimit < request.body.utf8ByteSize
    · rw [if_pos hsize]
      exact iff_of_false nofun fun h => absurd h.2.1 (Nat.not_le.2 hsize)
    · rw [if_neg hsize]
      have hfits : request.body.utf8ByteSize ≤ bodyLimit := Nat.not_lt.1 hsize
      rw [mapError_eq_ok_iff]
      simp [hfits]

/-- What is read from a body has what the decoder ensures. -/
theorem ensures_of_readBody {α : Type} {read : Decoder α} {P : α → Prop} (h : read.Ensures P)
    {request : Request} {a : α} (ha : readBody read request = .ok a) : P a :=
  h.of_ofText (readBody_eq_ok_iff.1 ha).2.2

/-! ## 2. Requests for an edit -/

namespace EditRequest

variable {o : Origin} {d : Depth}

theorem record_sound : record.Sound :=
  RecordKind.sound_of_slots [String, String, Description]
    (fun s => (s.widgetId, s.instruction, s.current, ()))
    (fun (a, b, c, _) => ⟨a, b, c⟩) (fun _ => rfl)
    (.cons (.cons (.cons .nil))) (by decide) rfl

/-- Which values make no difference to the fields of a request for an edit. -/
def likenesses : List (String × Likeness) :=
  [("widget_id", .same), ("edit_prompt", .same), ("current_widget", Description.Alike)]

theorem agrees : record.Agrees likenesses where
  sound := record_sound
  fields :=
    .cons (RecordField.agrees_slot Decoder.agrees_text) <|
    .cons (RecordField.agrees_slot Decoder.agrees_text) <|
    .cons (RecordField.agrees_slot Description.decoder_agrees) .nil

/-- The document of a request for an edit, with its fields in declared order. -/
def value (r : EditRequest) : Value :=
  .object
    [("widget_id", .text r.widgetId), ("edit_prompt", .text r.instruction),
     ("current_widget", r.current.value)]

/-- The values of the fields of a request for an edit. -/
def values (r : EditRequest) : List (Option Value) :=
  [some (.text r.widgetId), some (.text r.instruction), some r.current.value]

theorem value_eq (r : EditRequest) :
    r.value = .object (written (record.fields.map (·.name)) r.values) := rfl

theorem decoder_value {r : EditRequest} (h : r.current.OwnsTags) :
    record.decoder o (d + 5) r.value.raw = .ok r := by
  rw [value_eq]
  exact RecordKind.decoder_written_eq_ok record_sound
    (readValues_slot (readOptional_some rfl) rfl <|
     readValues_slot (readOptional_some rfl) rfl <|
     readValues_slot (readOptional_some (Description.decoder_value h)) rfl rfl) rfl

theorem plain_value (r : EditRequest) : r.value.Plain 5 := by
  rw [value_eq]
  refine Value.plain_written record_sound.nodup_names fun v hv => ?_
  simp only [values, List.mem_cons, List.not_mem_nil, or_false, Option.some.injEq] at hv
  rcases hv with rfl | rfl | rfl
  · exact Value.plain_text _ 4
  · exact Value.plain_text _ 4
  · exact r.current.plain_value

/-- The description in a request that was read owns its tags. -/
theorem ownsTags_decoder : record.decoder.Ensures fun r => r.current.OwnsTags := by
  intro o d tree r hr
  let I (s : Parts) : Prop := ∀ x, s.current = some x → x.OwnsTags
  have hput : ∀ f ∈ record.fields, ∀ p, f.Puts p → ∀ s, I s → I (p s) := by
    simp only [record, List.forall_mem_cons, List.not_mem_nil, false_implies, implies_true,
      and_true]
    refine ⟨?_, ?_, RecordField.keeps_slot fun hx s _ x heq => ?_⟩
    case refine_3 => exact Option.some.inj heq ▸ Description.ownsTags_decoder hx
    all_goals exact RecordField.keeps_slot fun _ s hs => hs
  have hstart : I record.start := by simp [I, record]
  obtain ⟨s, hs, hcomplete⟩ := RecordKind.exists_of_decoder_eq_ok hstart hput hr
  obtain ⟨id, -, h⟩ := exists_of_required_bind hcomplete
  obtain ⟨instruction, -, h⟩ := exists_of_required_bind h
  obtain ⟨x, hx, h⟩ := exists_of_required_bind h
  obtain rfl := Except.ok.inj h
  exact hs x hx

end EditRequest

end Widgetry.Http
