import Widgetry.Proofs.Cache.Backends
import Widgetry.Proofs.Model.Reply
import Widgetry.Proofs.Service.Memo
import Widgetry.Proofs.Service.Served

/-!
What replies leave in the cache. A service over a chat model and a cache that remembers stores what
it makes of a reply unless the reply is transient: too many requests, a failure of the remote end,
or no content. A prompt with a transient reply is asked again the next time; after any other reply,
however wrong, it never is (`replies_classified`).

The invariant of a run is that what the cache knows of a prompt stays known (`known_after`), for a
step stores a response only where none is known.
-/

namespace Widgetry

/-- The model that a chat model is to a service, given how the remote end answers requests. -/
def ChatModel.serving (m : ChatModel) (remote : Http.Call → Option Http.Reply) : Model :=
  ⟨m.generate remote, m.edit remote⟩

/-- What is read from a reply was decoded, from the whole of it or from a part. -/
theorem isDecoded_of_readContent {strictness : Strictness} {content : String} {d : Description}
    (h : readContent strictness content = .ok d) : d.IsDecoded := by
  have hparsed {text : String} (h : Description.parse text = .ok d) : d.IsDecoded :=
    ⟨_, _, _, (Json.Decoder.of_ofText_eq_ok h).1⟩
  have hbody := trim_ne_nil_of_readContent h
  cases strictness with
  | strict =>
    rw [readContent_strict_eq hbody, Json.mapError_eq_ok_iff] at h
    exact hparsed h
  | embedded =>
    cases hwhole : Description.parse (Text.trimmed content) with
    | ok d' =>
      rw [readContent_of_parse_ok .embedded hwhole hbody] at h
      cases h
      exact hparsed hwhole
    | error e =>
      obtain ⟨span, -, hspan⟩ := (readContent_embedded_eq_ok_iff hbody hwhole).1 h
      exact hparsed hspan

theorem ChatModel.decodes_serving (m : ChatModel) (remote : Http.Call → Option Http.Reply) :
    (m.serving remote).Decodes where
  generate h := by
    obtain ⟨call, -, h⟩ := Json.exists_of_bind_eq_ok h
    obtain ⟨content, -, h⟩ := Json.exists_of_bind_eq_ok h
    exact isDecoded_of_readContent h
  edit h := by
    obtain ⟨call, -, h⟩ := Json.exists_of_bind_eq_ok h
    obtain ⟨content, -, h⟩ := Json.exists_of_bind_eq_ok h
    exact isDecoded_of_readContent h

namespace Service

theorem isLasting_eq_false_iff {reply : Except ModelError Description} :
    isLasting reply = false ↔ ∃ e, reply = .error e ∧ e.isRecoverable = true := by
  cases reply <;> simp [isLasting]

/-! ## 1. Steps over a cache that remembers -/

variable {σ : Type} {s : Service} {cache : Cache σ} {known : σ → (String → Option Response) → Prop}
  {model : Model} {prompt : String} {st : ServiceState σ} {f : String → Option Response}

/-- What is known of a prompt is the answer, and stays known with all else. -/
theorem generate_of_known (hcache : cache.Remembers known) (hst : known st.cache f) {r : Response}
    (hr : f (cacheKey prompt) = some r) :
    (s.generate cache model prompt st).1 = ⟨.ok r, []⟩
      ∧ known (s.generate cache model prompt st).2.cache f := by
  obtain ⟨hget, hafter⟩ := hcache.get (cacheKey prompt) hst
  rw [hr] at hget
  rw [generate_of_found s cache hget]
  exact ⟨rfl, hafter⟩

/-- Where nothing is known of a prompt the model is called, and the response is known afterwards if
the reply is lasting. -/
theorem generate_of_unknown (hcache : cache.Remembers known) (httl : 0 < s.ttl)
    (hmodel : model.Decodes) (hst : known st.cache f) (hnone : f (cacheKey prompt) = none) :
    (s.generate cache model prompt st).1
        = ⟨.ok (s.freshResponse (model.generate prompt) (s.stamp st.issued)), [.generate prompt]⟩
      ∧ known (s.generate cache model prompt st).2.cache fun other =>
          if isLasting (model.generate prompt) = true ∧ other = cacheKey prompt then
            some (s.freshResponse (model.generate prompt) (s.stamp st.issued))
          else f other := by
  obtain ⟨hget, hafter⟩ := hcache.get (cacheKey prompt) hst
  have hmiss : ∀ r, (cache.get (cacheKey prompt) st.cache).1 ≠ .ok (some r) := by
    intro r hr
    rw [hget, hnone] at hr
    cases hr
  rw [generate_of_not_found s cache hmiss, outcome_snd]
  refine ⟨rfl, ?_⟩
  cases hlasting : isLasting (model.generate prompt) with
  | false => simpa using hafter
  | true =>
    have htags : (s.freshResponse (model.generate prompt) (s.stamp st.issued)).widget.OwnsTags := by
      rw [freshResponse, outcome_fst]
      exact (s.servable_rendered (ownsTags_generated hmodel prompt) _ _).tags
    simpa using (hcache.put (cacheKey prompt) _ s.ttl httl htags hafter).2

/-- What is known under a key is known after every step. -/
theorem known_act (hcache : cache.Remembers known) (httl : 0 < s.ttl) {a : Step} (ha : a.Decodes)
    {key : String} {r : Response} (h : ∃ f, known st.cache f ∧ f key = some r) :
    ∃ f, known (s.act cache a st).2.cache f ∧ f key = some r := by
  obtain ⟨f, hst, hr⟩ := h
  cases ha with
  | @generate model prompt hmodel =>
    rw [act]
    cases hfound : f (cacheKey prompt) with
    | some r' => exact ⟨f, (generate_of_known hcache hst hfound).2, hr⟩
    | none =>
      refine ⟨_, (generate_of_unknown hcache httl hmodel hst hfound).2, ?_⟩
      -- a response is stored only where none is known, so not under this key
      have hne : key ≠ cacheKey prompt := by
        rintro rfl
        rw [hr] at hfound
        cases hfound
      simpa [hne] using hr
  | edit hmodel hcurrent => exact ⟨f, hst, hr⟩
  | bundle => exact ⟨f, hst, hr⟩

/-- It is known after every run. -/
theorem known_after (hcache : cache.Remembers known) (httl : 0 < s.ttl) {steps : List Step}
    (hsteps : ∀ a ∈ steps, a.Decodes) {key : String} {r : Response}
    (h : ∃ f, known st.cache f ∧ f key = some r) :
    ∃ f, known (s.after cache steps st).cache f ∧ f key = some r :=
  s.events_induction_of_forall cache
    (P := fun _ st => ∃ f, known st.cache f ∧ f key = some r)
    (fun _ _ _ ha hst => known_act hcache httl ha hst) h steps hsteps

/-! ## 2. What a reply leaves behind -/

/-- What a step that generates leaves in a cache that knew nothing of its prompt. -/
structure Leaves (s : Service) (cache : Cache σ) (known : σ → (String → Option Response) → Prop)
    (model : Model) (prompt : String) (st : ServiceState σ) (f : String → Option Response)
    (transient : Prop) : Prop where
  /-- The model is called once, and its description or the fallback widget is handed out. -/
  answer : (s.generate cache model prompt st).1
    = ⟨.ok (s.rendered (generated model prompt) (s.stamp st.issued).widgetId
        (s.stamp st.issued).timestamp), [.generate prompt]⟩
  /-- The prompt is left uncached exactly if the reply is transient; of others as much is known as
  before. -/
  left : ∃ f', known (s.generate cache model prompt st).2.cache f'
    ∧ (f' (cacheKey prompt) = none ↔ transient)
    ∧ ∀ key, key ≠ cacheKey prompt → f' key = f key
  /-- After a transient reply the same prompt is asked again. -/
  again : transient → ∀ model' prompt', Text.trimmed prompt' = Text.trimmed prompt →
    (s.generate cache model' prompt' (s.generate cache model prompt st).2).1.calls
      = [.generate prompt']
  /-- After any other reply the same prompt gets the same answer and nothing is asked, whatever is
  done in between. -/
  later : ¬transient → ∀ steps, (∀ a ∈ steps, a.Decodes) →
    ∀ model' prompt', Text.trimmed prompt' = Text.trimmed prompt →
    (s.generate cache model' prompt' (s.after cache steps (s.generate cache model prompt st).2)).1
      = ⟨(s.generate cache model prompt st).1.result, []⟩

theorem leaves_generate (hcache : cache.Remembers known) (httl : 0 < s.ttl)
    (hmodel : model.Decodes) (hst : known st.cache f) (hnone : f (cacheKey prompt) = none)
    {transient : Prop} (htransient : isLasting (model.generate prompt) = false ↔ transient) :
    s.Leaves cache known model prompt st f transient := by
  obtain ⟨hanswer, hleft⟩ := generate_of_unknown hcache httl hmodel hst hnone
  constructor
  case answer => rw [hanswer, freshResponse, outcome_fst]
  case left =>
    refine ⟨_, hleft, ?_, ?_⟩
    · rw [← htransient]
      cases isLasting (model.generate prompt) <;> simp [hnone]
    · intro key hkey
      simp [hkey]
  case again =>
    intro h model' prompt' hprompt
    rw [htransient.2 h] at hleft
    have hget := (hcache.get (cacheKey prompt') hleft).1
    have hmiss : ∀ r, (cache.get (cacheKey prompt')
        (s.generate cache model prompt st).2.cache).1 ≠ .ok (some r) := by
      intro r hr
      rw [hget, cacheKey_inj.2 hprompt] at hr
      simp [hnone] at hr
    rw [generate_of_not_found s cache hmiss]
  case later =>
    intro h steps hsteps model' prompt' hprompt
    have hlasting : isLasting (model.generate prompt) = true := by
      simpa using mt htransient.1 h
    -- the step stored its response, and no later step changes what is known
    obtain ⟨f', hst', hr⟩ := known_after hcache httl hsteps
      ⟨_, hleft, by rw [if_pos ⟨hlasting, rfl⟩]⟩
    rw [← cacheKey_inj.2 hprompt] at hr
    rw [(generate_of_known hcache hst' hr).1, hanswer]

/-! ## 3. Chat models -/

theorem isLasting_generate_eq_false_iff {m : ChatModel} {remote : Http.Call → Option Http.Reply}
    {reply : Http.Reply} (h : reply.Judged (m.generate remote prompt)) :
    isLasting ((m.serving remote).generate prompt) = false ↔
      reply.status = 429 ∨ 500 ≤ reply.status
        ∨ m.generate remote prompt = .error .emptyResponse :=
  isLasting_eq_false_iff.trans h.isRecoverable_iff

/-- **Replies are classified, and only transient ones go uncached.** A chat model that can send
makes one request for a prompt, and its reply decides: it is interim, refused, unreadable or empty,
or the first choice is read where prose is allowed. Over a cache that remembers, the prompt is left
uncached exactly if too many requests were made, the remote end failed or the reply was empty;
otherwise nothing is asked for it again. Without a key, or with a blank one, nothing is sent, and
the fallback widget is stored. A message without content is one whose content is absent or null. -/
theorem replies_classified (hcache : cache.Remembers known) (httl : 0 < s.ttl) :
    (∀ (m : ChatModel) (prompt : String), m.CanSend →
      ∃ call, m.generateCall prompt = .ok call ∧ ∀ remote reply, remote call = some reply →
        reply.Judged (m.generate remote prompt)
          ∧ ∀ st f, known st.cache f → f (cacheKey prompt) = none →
            s.Leaves cache known (m.serving remote) prompt st f
              (reply.status = 429 ∨ 500 ≤ reply.status
                ∨ m.generate remote prompt = .error .emptyResponse))
      ∧ (∀ (settings : ModelSettings) (prompt : String),
        (∀ key ∈ settings.apiKey, Text.isBlankText key = true) →
        (ChatModel.ofSettings settings).generateCall prompt = .error .notConfigured
          ∧ ∀ remote, generated ((ChatModel.ofSettings settings).serving remote) prompt
              = fallbackWidget
            ∧ ∀ st f, known st.cache f → f (cacheKey prompt) = none →
              s.Leaves cache known ((ChatModel.ofSettings settings).serving remote) prompt st f
                False)
      ∧ ∀ o d ms, (ms.map Prod.fst).Nodup →
        (messageRecord.decoder o (d + 1) (Json.Value.object ms).raw = .ok none
          ↔ Json.look ms "content" = none ∨ Json.look ms "content" = some .null) := by
  refine ⟨?_, ?_, fun _ _ _ => messageRecord_eq_ok_none_iff⟩
  · intro m prompt hsend
    obtain ⟨call, hcall⟩ := ChatModel.exists_call_iff.2 hsend
    refine ⟨call, hcall, fun remote reply hreply => ?_⟩
    have hjudged := ChatModel.judged_generate hcall hreply
    exact ⟨hjudged, fun st f hst hnone => leaves_generate hcache httl (m.decodes_serving remote)
      hst hnone (isLasting_generate_eq_false_iff hjudged)⟩
  · intro settings prompt hblank
    have hcall := ChatModel.generateCall_of_blank hblank prompt
    refine ⟨hcall, fun remote => ?_⟩
    have hgenerate : ((ChatModel.ofSettings settings).serving remote).generate prompt
        = .error .notConfigured := ChatModel.generate_of_generateCall hcall remote
    refine ⟨by rw [generated, hgenerate], fun st f hst hnone => ?_⟩
    refine leaves_generate hcache httl (ChatModel.decodes_serving _ remote) hst hnone ?_
    rw [hgenerate]
    exact iff_of_false (by decide) not_false

/-- A reply that there were too many requests, and one that there is no such address. -/
theorem replies_classified_sample :
    let limited := ChatModel.sample.serving fun _ => some ⟨429, "{}"⟩
    let missing := ChatModel.sample.serving fun _ => some ⟨404, "{}"⟩
    let start : ServiceState Cache.Table := ⟨[], 0, 0⟩
    Cache.inProcess.Remembers Cache.Table.Knows ∧ 0 < numberedService.ttl
      ∧ ChatModel.sample.CanSend
      ∧ limited.generate "quiz" = .error (.api 429 "{}")
      ∧ (numberedService.generate Cache.inProcess limited " quiz"
          (numberedService.generate Cache.inProcess limited "quiz" start).2).1.calls
        = [.generate " quiz"]
      ∧ (numberedService.generate Cache.inProcess limited " quiz"
          (numberedService.generate Cache.inProcess missing "quiz" start).2).1.calls = [] := by
  intro limited missing start
  have hcache := Cache.remembers_inProcess
  have httl : 0 < numberedService.ttl := by decide
  have hsend : ChatModel.sample.CanSend := ⟨"key", rfl, by decide +kernel, by decide +kernel⟩
  have hstart : Cache.Table.Knows [] fun _ => none := fun _ => rfl
  obtain ⟨call, -, hreplies⟩ :=
    (replies_classified hcache httl).1 ChatModel.sample "quiz" hsend
  obtain ⟨hlimited, hleaves⟩ := hreplies (fun _ => some ⟨429, "{}"⟩) _ rfl
  obtain ⟨hmissing, hleaves'⟩ := hreplies (fun _ => some ⟨404, "{}"⟩) _ rfl
  refine ⟨hcache, httl, hsend, hlimited.refused rfl rfl, ?_, ?_⟩
  · exact (hleaves start _ hstart rfl).again (.inl rfl) limited " quiz" (by decide)
  · have hlater := (hleaves' start _ hstart rfl).later
    rw [hmissing.refused rfl rfl] at hlater
    exact congrArg Answer.calls
      (hlater (by decide) [] (List.forall_mem_nil _) limited " quiz" (by decide))

/-- A reply that only tells of another one is no success, and yet its status is not reported. -/
theorem interim_reply_not_reported :
    let reply : Http.Reply := ⟨102, ""⟩
    let result := ChatModel.sample.generate (fun _ => some reply) "quiz"
    ChatModel.sample.CanSend ∧ reply.isSuccess = false
      ∧ result = .error (.http false) ∧ result ≠ .error (.api reply.status reply.body) := by
  intro reply result
  have hsend : ChatModel.sample.CanSend := ⟨"key", rfl, by decide +kernel, by decide +kernel⟩
  obtain ⟨call, hcall⟩ := ChatModel.exists_call_iff.2 hsend
  have hreply : (fun _ => some reply) call = some reply := rfl
  have hresult : result = .error (.http false) :=
    (ChatModel.judged_generate hcall hreply).interim rfl
  refine ⟨hsend, rfl, hresult, ?_⟩
  rw [hresult]
  nofun

end Service

end Widgetry
