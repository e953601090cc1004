import Widgetry.Model.Chat
import Widgetry.Proofs.Json.Numeral
import Widgetry.Proofs.Model.Prompt

/-!
Requests to the model. The body of a request is one document, and who decodes it gets the name of
the model, the two messages as they were put together, and the number of tokens. The temperature is
a number of 32 bits, which may be read as another one; it is the one member that the decoder here
passes over. Since the user message of an edit shows the document and the words and no others, so
does the request (`ChatModel.edit_unambiguous`).

The request is decoded here with records of its own, which are declared beside the statement: they
say what a service that follows the format would see. The numbers in it are what makes its text more
than a plain document, so the text is read back through the trees of numbers that are printed.
-/

namespace Widgetry

open Json (Decoder IsDocument Raw RecordField RecordKind Value required)
open Json.RecordField (read_slot)
open Json.RecordKind (readMembers_cons_known readMembers_cons_unknown decoder_of_readMembers)

/-! ## 1. What is read of a request -/

/-- A message of an exchange. -/
structure ChatMessage where
  role : String
  content : String
  deriving Repr, DecidableEq

/-- A request for a reply to messages. -/
structure ChatRequest where
  model : String
  messages : List ChatMessage
  maxTokens : Nat
  deriving Repr, DecidableEq

namespace ChatMessage

/-- The fields of a message read so far. -/
structure Parts where
  role : Option String
  content : Option String

/-- A message as a record. -/
def record : RecordKind Parts ChatMessage where
  name := "ChatMessage"
  fields :=
    [.slot "role" (·.role) (fun a s => { s with role := a }) Decoder.text,
     .slot "content" (·.content) (fun a s => { s with content := a }) Decoder.text]
  start := ⟨none, none⟩
  complete s := do return ⟨← required "role" s.role, ← required "content" s.content⟩

theorem record_sound : record.Sound :=
  RecordKind.sound_of_slots [String, String]
    (fun s => (s.role, s.content, ()))
    (fun (a, b, _) => ⟨a, b⟩) (fun _ => rfl)
    (.cons (.cons .nil)) (by decide) rfl

/-- A message as a value. -/
def value (m : ChatMessage) : Value :=
  .object [("role", .text m.role), ("content", .text m.content)]

theorem value_eq (m : ChatMessage) :
    m.value = .object (Json.written (record.fields.map (·.name))
      [some (.text m.role), some (.text m.content)]) := rfl

/-- A message is read from its document. -/
theorem decoder_value (m : ChatMessage) (o : Json.Origin) (d : Json.Depth) :
    record.decoder o (d + 1) m.value.raw = .ok m := by
  rw [value_eq]
  exact RecordKind.decoder_written_eq_ok record_sound
    (Json.readValues_slot (Json.readOptional_some rfl) rfl <|
     Json.readValues_slot (Json.readOptional_some rfl) rfl rfl) rfl

end ChatMessage

namespace ChatRequest

/-- The fields of a request read so far. -/
structure Parts where
  model : Option String
  messages : Option (List ChatMessage)
  maxTokens : Option Nat

/-- A request as a record. -/
def record : RecordKind Parts ChatRequest where
  name := "ChatRequest"
  fields :=
    [.slot "model" (·.model) (fun a s => { s with model := a }) Decoder.text,
     .slot "messages" (·.messages) (fun a s => { s with messages := a })
       (Decoder.list ChatMessage.record.decoder),
     .slot "max_tokens" (·.maxTokens) (fun a s => { s with maxTokens := a })
       (Decoder.natural (Decimal.twoTo 32) "u32")]
  start := ⟨none, none, none⟩
  complete s := do
    return ⟨← required "model" s.model, ← required "messages" s.messages,
      ← required "max_tokens" s.maxTokens⟩

end ChatRequest

/-! ## 2. The body of a request -/

namespace ChatModel

variable {m : ChatModel}

/-- The messages of a request. -/
def messagesValue (system user : String) : Value :=
  .array [ChatMessage.value ⟨"system", system⟩, ChatMessage.value ⟨"user", user⟩]

theorem legible_messagesValue (system user : String) : (messagesValue system user).Legible := by
  simp [messagesValue, ChatMessage.value, Value.Legible, Value.LegibleHere]

theorem decoder_messagesValue (system user : String) (o : Json.Origin) (d : Json.Depth) :
    Decoder.list ChatMessage.record.decoder o (d + 2) (messagesValue system user).raw
      = .ok [⟨"system", system⟩, ⟨"user", user⟩] :=
  Decoder.list_array_eq_ok_iff.2 <|
    .cons (ChatMessage.decoder_value ⟨"system", system⟩ o d) <|
    .cons (ChatMessage.decoder_value ⟨"user", user⟩ o d) .nil

/-- The temperature is written as a number or as null. -/
theorem exists_readAs_temperature (temperature : Decimal.Binary) :
    ∃ r : Raw, (temperatureValue temperature).ReadAs r ∧ r.Whole := by
  have hnull : Value.null.ReadAs .null := Json.readAs_raw ((Json.Value.everywhere_null).2 trivial)
  cases temperature with
  | finite negative mantissa exponent =>
    obtain ⟨n, hn⟩ := Json.exists_readAs_real Decimal.single negative mantissa exponent
    exact ⟨.number n, hn, rfl⟩
  | infinite negative => exact ⟨.null, hnull, rfl⟩
  | undefined => exact ⟨.null, hnull, rfl⟩

/-- The members of a request's tree. -/
def requestMembers (m : ChatModel) (system user : String) (temperature : Raw) : Json.Members :=
  .cons (.ok "model") (.text (.ok m.model)) <|
  .cons (.ok "messages") (messagesValue system user).raw <|
  .cons (.ok "temperature") temperature <|
  .cons (.ok "max_tokens") (.number (.ok (.int m.maxTokens))) .closed

/-- The body of a request is read as its tree. -/
theorem exists_ofText_requestBody (hm : m.maxTokens ≤ Json.greatest) (system user : String)
    (temperature : Decimal.Binary) :
    ∃ r : Raw, r.Whole
      ∧ Raw.ofText (m.requestBody system user temperature).compact
        = (.object (m.requestMembers system user r), []) := by
  obtain ⟨r, hr, hwhole⟩ := exists_readAs_temperature temperature
  have hname : (Value.text m.model).ReadAs (.text (.ok m.model)) :=
    Json.readAs_raw ((Json.Value.everywhere_text _).2 trivial)
  have hcount : (Value.number (.int m.maxTokens)).ReadAs (.number (.ok (.int m.maxTokens))) :=
    Json.readAs_raw ((Json.Value.everywhere_number _).2 (Json.legible_natural hm))
  have hmessages := Json.readAs_raw (legible_messagesValue system user)
  have hbody : (m.requestBody system user temperature).ReadAs
      (.object (m.requestMembers system user r)) :=
    Json.readAs_object <| .cons hname <| .cons hmessages <| .cons hr <| .cons hcount .nil
  exact ⟨r, hwhole, hbody.ofText_compact⟩

theorem readMembers_requestMembers (hm : m.maxTokens < Decimal.twoTo 32) (system user : String)
    {r : Raw} (hr : r.Whole) (o : Json.Origin) (d : Json.Depth) :
    RecordKind.readMembers ChatRequest.record.fields o (d + 2) (m.requestMembers system user r)
        ChatRequest.record.start
      = .ok ⟨some m.model, some [⟨"system", system⟩, ⟨"user", user⟩], some m.maxTokens⟩ := by
  have hcount : Decoder.natural (Decimal.twoTo 32) "u32" o (d + 2)
      (.number (.ok (.int m.maxTokens))) = .ok m.maxTokens := by
    have hbound : (m.maxTokens : Int) < Decimal.twoTo 32 := by exact_mod_cast hm
    simp [Decoder.natural, hbound]
  have hmessages := decoder_messagesValue system user o d
  rw [requestMembers]
  apply Iff.mpr (readMembers_cons_known rfl rfl (read_slot rfl))
  apply Iff.mpr (readMembers_cons_known rfl rfl (read_slot hmessages))
  apply Iff.mpr (readMembers_cons_unknown rfl hr)
  apply Iff.mpr (readMembers_cons_known rfl rfl (read_slot hcount))
  rfl

/-- The body of a request is one document, which is decoded to what the request says. -/
theorem decode_requestBody (hm : m.maxTokens < Decimal.twoTo 32) (system user : String)
    (temperature : Decimal.Binary) :
    IsDocument (m.requestBody system user temperature).compact
      ∧ ChatRequest.record.decoder.ofText (m.requestBody system user temperature).compact
        = .ok ⟨m.model, [⟨"system", system⟩, ⟨"user", user⟩], m.maxTokens⟩ := by
  have hfits : m.maxTokens ≤ Json.greatest := by
    rw [Json.greatest]
    have hle : Decimal.twoTo 32 ≤ Decimal.twoTo 64 - 1 := by decide
    omega
  obtain ⟨r, hr, htext⟩ := exists_ofText_requestBody hfits system user temperature
  have hwhole : (m.requestMembers system user r).Whole := by
    have hmessages : (messagesValue system user).raw.Whole := Json.skip_raw _
    simp only [requestMembers, Json.Members.whole_cons, Json.Members.whole_closed, and_true]
    exact ⟨rfl, hmessages, hr, rfl⟩
  have hread := readMembers_requestMembers hm system user hr .text 124
  refine ⟨⟨by rwa [htext, Json.whole_object], by rw [htext]⟩, ?_⟩
  exact (Decoder.ofText_eq_ok_iff htext).2 (decoder_of_readMembers hread rfl)

/-! ## 3. Edits -/

/-- A call can be sent if there is a key, which a header can hold, and an address to send it to. -/
def CanSend (m : ChatModel) : Prop :=
  ∃ key, m.apiKey = some key ∧ Http.isHeaderValue key = true
    ∧ Http.canSendTo (m.baseUrl ++ "/chat/completions") = true

theorem call_eq_ok_iff {system user : String} {temperature : Decimal.Binary} {call : Http.Call} :
    m.call system user temperature = .ok call ↔
      ∃ key, m.apiKey = some key ∧ Http.isHeaderValue key = true
        ∧ Http.canSendTo (m.baseUrl ++ "/chat/completions") = true
        ∧ call = ⟨"POST", m.baseUrl ++ "/chat/completions", some ("Bearer " ++ key),
          some (m.requestBody system user temperature).compact⟩ := by
  rw [ChatModel.call]
  cases m.apiKey with
  | none => simp
  | some key =>
    dsimp only
    split
    · rename_i hsend
      obtain ⟨hkey, hurl⟩ := Bool.and_eq_true_iff.1 hsend
      rw [Except.ok.injEq]
      constructor
      · rintro rfl
        exact ⟨key, rfl, hkey, hurl, rfl⟩
      · rintro ⟨key', hkey', -, -, rfl⟩
        obtain rfl := Option.some.inj hkey'
        rfl
    · rename_i hsend
      refine iff_of_false nofun ?_
      rintro ⟨key', hkey, hheader, hurl, -⟩
      obtain rfl := Option.some.inj hkey
      exact hsend (Bool.and_eq_true_iff.2 ⟨hheader, hurl⟩)

theorem exists_call_iff {system user : String} {temperature : Decimal.Binary} :
    (∃ call, m.call system user temperature = .ok call) ↔ m.CanSend := by
  simp only [call_eq_ok_iff, CanSend]
  constructor
  · rintro ⟨call, key, hkey, hheader, hurl, -⟩
    exact ⟨key, hkey, hheader, hurl⟩
  · rintro ⟨key, hkey, hheader, hurl⟩
    exact ⟨_, key, hkey, hheader, hurl, rfl⟩

/-- An edit that can be sent is sent as a document whose user message shows the description and the
words, and no others. -/
theorem edit_unambiguous (hm : m.maxTokens < Decimal.twoTo 32) {d : Description} (hd : d.OwnsTags)
    (words : String) :
    Prompt.Shows (Prompt.edit d words) d words
      ∧ ((∃ call, m.editCall d words = .ok call) ↔ m.CanSend)
      ∧ ∀ call, m.editCall d words = .ok call → ∃ body, call.body = some body ∧ IsDocument body
        ∧ ChatRequest.record.decoder.ofText body
          = .ok ⟨m.model,
            [⟨"system", Prompt.editSystem⟩, ⟨"user", Prompt.edit d words⟩], m.maxTokens⟩ := by
  refine ⟨Prompt.shows_edit hd words, exists_call_iff, fun call hcall => ?_⟩
  obtain ⟨key, -, -, -, rfl⟩ := call_eq_ok_iff.1 hcall
  obtain ⟨hdocument, hread⟩ := decode_requestBody hm _ _ _
  exact ⟨_, rfl, hdocument, hread⟩

/-- A model with a key and an address. -/
def sample : ChatModel where
  baseUrl := "http://[::1]/v1"
  model := "a \"b\""
  apiKey := some "key"
  maxTokens := 2000
  generateTemperature := .finite false 11744051 (-24)
  editTemperature := .finite false 10066330 (-25)

/-- A title and words that hold what stands between them, braces and quotes. -/
theorem edit_unambiguous_sample :
    let d := Description.blank .custom (r#"T"}"# ++ Prompt.editSeparator)
    let words := Prompt.editSeparator ++ r"}" ++ Prompt.editEnding
    sample.maxTokens < Decimal.twoTo 32 ∧ d.OwnsTags ∧ sample.CanSend
      ∧ Prompt.Shows (Prompt.edit d words) d words
      ∧ ∃ call body, sample.editCall d words = .ok call ∧ call.body = some body
        ∧ ChatRequest.record.decoder.ofText body
          = .ok ⟨"a \"b\"",
            [⟨"system", Prompt.editSystem⟩, ⟨"user", Prompt.edit d words⟩], 2000⟩ := by
  intro d words
  have htokens : sample.maxTokens < Decimal.twoTo 32 := by decide
  have htags : d.OwnsTags := by
    intro e he
    exact absurd he List.not_mem_nil
  have hsend : sample.CanSend := ⟨"key", rfl, by decide +kernel, by decide +kernel⟩
  obtain ⟨hshows, hiff, hsent⟩ := edit_unambiguous htokens htags words
  obtain ⟨call, hcall⟩ := hiff.2 hsend
  obtain ⟨body, hbody, -, hread⟩ := hsent call hcall
  exact ⟨htokens, htags, hsend, hshows, call, body, hcall, hbody, hread⟩

end ChatModel

end Widgetry
