import Widgetry.Proofs.Model.Request
import Widgetry.Proofs.Model.Strictness

/-!
Replies of the model. Every reply to the one request for a widget falls into one class, which its
status decides, then whether its text is a reply at all, and then the content of its first choice
(`ChatModel.judged_generate`). Which failures may pass is told by the status alone, but for replies
without content (`Http.Reply.Judged.isRecoverable_iff`). Without a key there is neither request nor
reply.

The classes follow the way of a reply: it only tells of another one, its status is no success, its
text is no reply, there is nothing in its first choice, or there is something, which is then read as
a description. Each of them but the last has an error of its own, and only some of the errors are
worth another try.
-/

namespace Widgetry

open Json (Decoder Origin RecordField RecordKind Value gather look)

/-! ## 1. The content of a choice -/

theorem messageRecord_sound : messageRecord.Sound :=
  RecordKind.sound_of_slots [Option String]
    (fun s => (s, ()))
    (fun t => t.1) (fun _ => rfl)
    (.cons .nil) (by decide) rfl

/-- A message has no content exactly if the content is absent or null. -/
theorem messageRecord_eq_ok_none_iff {o : Origin} {d : Json.Depth} {ms : List (String × Value)}
    (hkeys : (ms.map Prod.fst).Nodup) :
    messageRecord.decoder o (d + 1) (Value.object ms).raw = .ok none
      ↔ look ms "content" = none ∨ look ms "content" = some .null := by
  rw [RecordKind.decoder_object_eq_ok_iff messageRecord_sound hkeys, messageRecord]
  dsimp only
  simp only [gather, RecordField.slot]
  cases look ms "content" with
  | none => exact iff_of_true ⟨none, rfl, rfl⟩ (.inl rfl)
  | some r =>
    cases r with
    | null => exact iff_of_true ⟨some none, rfl, rfl⟩ (.inr rfl)
    | text content =>
      cases content <;> simp [Decoder.nullable, Decoder.text, Except.map]
    | _ => simp [Decoder.nullable, Decoder.text, Except.map]

/-- Of contents that cannot be read only the blank ones may be better the next time. -/
theorem isRecoverable_readContent_iff {strictness : Strictness} {content : String} :
    (∃ e, readContent strictness content = .error e ∧ e.isRecoverable = true)
      ↔ Text.isBlankText content = true := by
  constructor
  · rintro ⟨e, he, hrecoverable⟩
    by_contra hblank
    obtain ⟨problem, rfl⟩ := exists_of_readContent_error (mt Text.isBlankText_iff.2 hblank) he
    cases hrecoverable
  · intro hblank
    exact ⟨.emptyResponse, readContent_of_blank strictness hblank, rfl⟩

/-! ## 2. Classes of replies -/

namespace Http.Reply

/-- What becomes of a reply to the request for a widget. -/
structure Judged (reply : Reply) (result : Except ModelError Description) : Prop where
  /-- A reply that only tells of another one is no answer. -/
  interim : reply.isInterim = true → result = .error (.http false)
  refused : reply.isInterim = false → reply.isSuccess = false →
    result = .error (.api reply.status reply.content)
  unreadable : reply.isSuccess = true → ∀ e, replyRecord.decoder.ofText reply.content = .error e →
    result = .error (.http false)
  /-- There is no first choice, it has no content, or this is blank. -/
  empty : reply.isSuccess = true → ∀ contents,
    replyRecord.decoder.ofText reply.content = .ok contents →
    (∀ content, contents.head? = some (some content) → Text.isBlankText content = true) →
    result = .error .emptyResponse
  /-- Later choices do not count. -/
  read : reply.isSuccess = true → ∀ content later,
    replyRecord.decoder.ofText reply.content = .ok (some content :: later) →
    Text.isBlankText content = false → result = readContent .embedded content

theorem isInterim_eq_false {reply : Reply} (h : reply.isSuccess = true) :
    reply.isInterim = false := by
  simp only [isSuccess, isInterim, Bool.and_eq_true, decide_eq_true_eq] at h ⊢
  simp
  omega

variable {reply : Reply} {result : Except ModelError Description}

/-- A failure may pass exactly if too many requests were made, if the remote end failed, or if the
reply was empty. -/
theorem Judged.isRecoverable_iff (h : reply.Judged result) :
    (∃ e, result = .error e ∧ e.isRecoverable = true)
      ↔ reply.status = 429 ∨ 500 ≤ reply.status ∨ result = .error .emptyResponse := by
  cases hinterim : reply.isInterim with
  | true =>
    have hbounds : reply.status < 200 := by
      simp only [isInterim, Bool.and_eq_true, decide_eq_true_eq] at hinterim
      exact hinterim.1.2
    rw [h.interim hinterim]
    simp [ModelError.isRecoverable]
    omega
  | false =>
    cases hsuccess : reply.isSuccess with
    | false =>
      rw [h.refused hinterim hsuccess]
      simp [ModelError.isRecoverable]
    | true =>
      have hbounds : reply.status < 300 := by
        simp only [isSuccess, Bool.and_eq_true, decide_eq_true_eq] at hsuccess
        exact hsuccess.2
      -- a success is neither of the two statuses, so only an empty reply may pass
      have hquiet : reply.status ≠ 429 ∧ ¬500 ≤ reply.status := by omega
      cases hcontents : replyRecord.decoder.ofText reply.content with
      | error e =>
        rw [h.unreadable hsuccess e hcontents]
        simp [ModelError.isRecoverable, hquiet]
      | ok contents =>
        by_cases hblank : ∀ content, contents.head? = some (some content) →
            Text.isBlankText content = true
        · rw [h.empty hsuccess contents hcontents hblank]
          simp [ModelError.isRecoverable]
        · obtain ⟨content, hfirst, hcontent⟩ : ∃ content,
              contents.head? = some (some content) ∧ Text.isBlankText content = false := by
            simpa using hblank
          obtain ⟨later, rfl⟩ := List.head?_eq_some_iff.1 hfirst
          rw [h.read hsuccess content later hcontents hcontent]
          rw [isRecoverable_readContent_iff, readContent_eq_emptyResponse_iff]
          simp [hquiet, hcontent]

end Http.Reply

namespace ChatModel

variable {m : ChatModel} {prompt : String} {call : Http.Call}

theorem generate_eq (hcall : m.generateCall prompt = .ok call)
    {remote : Http.Call → Option Http.Reply} {reply : Http.Reply}
    (hreply : remote call = some reply) :
    m.generate remote prompt = replyContent (some reply) >>= readContent .embedded := by
  rw [generate, hcall, ← hreply]
  rfl

/-- A reply to the request for a widget falls into its class. -/
theorem judged_generate (hcall : m.generateCall prompt = .ok call)
    {remote : Http.Call → Option Http.Reply} {reply : Http.Reply}
    (hreply : remote call = some reply) : reply.Judged (m.generate remote prompt) := by
  rw [generate_eq hcall hreply]
  constructor
  case interim =>
    intro h
    rw [replyContent, if_pos h]
    rfl
  case refused =>
    intro hinterim hsuccess
    simp [replyContent, hinterim, hsuccess, bind, Except.bind]
  case unreadable =>
    intro hsuccess e he
    have hfinal := Http.Reply.isInterim_eq_false hsuccess
    simp [replyContent, hfinal, hsuccess, he, bind, Except.bind]
  case empty =>
    intro hsuccess contents hcontents hblank
    have hfinal := Http.Reply.isInterim_eq_false hsuccess
    match contents with
    | [] => simp [replyContent, hfinal, hsuccess, hcontents, bind, Except.bind]
    | none :: later => simp [replyContent, hfinal, hsuccess, hcontents, bind, Except.bind]
    | some content :: later =>
      have hcontent := hblank content rfl
      simp [replyContent, hfinal, hsuccess, hcontents, hcontent, bind, Except.bind]
  case read =>
    intro hsuccess content later hcontents hblank
    have hfinal := Http.Reply.isInterim_eq_false hsuccess
    simp [replyContent, hfinal, hsuccess, hcontents, hblank, bind, Except.bind]

/-- Without a key, or with a blank one, there is no request. -/
theorem generateCall_of_blank {settings : ModelSettings}
    (hblank : ∀ key ∈ settings.apiKey, Text.isBlankText key = true) (prompt : String) :
    (ofSettings settings).generateCall prompt = .error .notConfigured := by
  have hkey : (ofSettings settings).apiKey = none := by
    rw [ofSettings]
    dsimp only
    rw [Option.filter_eq_none_iff]
    intro key hkey
    simp [hblank key hkey]
  rw [generateCall, call, hkey]

theorem generate_of_generateCall {e : ModelError} (hcall : m.generateCall prompt = .error e)
    (remote : Http.Call → Option Http.Reply) : m.generate remote prompt = .error e := by
  rw [generate, hcall]
  rfl

end ChatModel

end Widgetry
