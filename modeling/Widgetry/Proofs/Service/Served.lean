import Widgetry.Proofs.Cache.Server
import Widgetry.Proofs.Service.Coherence
import Widgetry.Proofs.Widget.Response

/-!
Served responses. Whatever was decoded owns its tags, so a service that works on decoded
descriptions hands out only responses that can be read back from their texts. Main statement: every
response that a run from an empty cache hands out is coherent and owns its tags
(`Served.servable`), also over a cache that keeps texts.

The invariant of a run is that the cache holds such responses only. One lemma says for any property
of responses what a step that generates does to it (`generate_keeps`).
-/

namespace Widgetry

/-! ## 1. Decoded descriptions -/

/-- A description that was decoded from some document. -/
def Description.IsDecoded (d : Description) : Prop :=
  ∃ o n r, decoder o n r = .ok d

/-- The decoded descriptions are those that own their tags. -/
theorem Description.isDecoded_iff {d : Description} : d.IsDecoded ↔ d.OwnsTags := by
  constructor
  · rintro ⟨o, n, r, h⟩
    exact ownsTags_decoder h
  · intro h
    exact ⟨.text, 4, d.value.raw, decoder_value h⟩

/-- A model all of whose descriptions were decoded. -/
structure Model.Decodes (m : Model) : Prop where
  generate : ∀ {prompt d}, m.generate prompt = .ok d → d.IsDecoded
  edit : ∀ {current instruction d}, m.edit current instruction = .ok d → d.IsDecoded

theorem ownsTags_fallbackWidget : fallbackWidget.OwnsTags := by
  intro e he
  simp only [fallbackWidget, List.mem_cons, List.not_mem_nil, or_false] at he
  rcases he with rfl | rfl | rfl <;> exact ElementKind.ownsTag_of_mem_known (by decide)

namespace Service

/-- A step on decoded descriptions. -/
inductive Step.Decodes : Step → Prop
  | generate {model : Model} {prompt : String} (decodes : model.Decodes) :
    Decodes (.generate model prompt)
  | edit {model : Model} {widgetId instruction : String} {current : Description}
    (decodes : model.Decodes) (decoded : current.IsDecoded) :
    Decodes (.edit model widgetId instruction current)
  | bundle {response : Response} : Decodes (.bundle response)

theorem ownsTags_generated {model : Model} (h : model.Decodes) (prompt : String) :
    (generated model prompt).OwnsTags := by
  rw [generated]
  cases hreply : model.generate prompt with
  | ok d => exact Description.isDecoded_iff.1 (h.generate hreply)
  | error e => exact ownsTags_fallbackWidget

theorem ownsTags_edited {model : Model} (h : model.Decodes) {current : Description}
    (hcurrent : current.OwnsTags) (instruction : String) :
    (edited model instruction current).OwnsTags := by
  rw [edited]
  cases hreply : model.edit current instruction with
  | ok d => exact Description.isDecoded_iff.1 (h.edit hreply)
  | error e => exact hcurrent

variable (s : Service)

/-! ## 2. Responses that can be read back -/

/-- A response whose parts belong together, and that is read back from its text. -/
structure Servable (r : Response) : Prop where
  coherent : s.Coherent r
  tags : r.widget.OwnsTags

theorem servable_rendered {d : Description} (h : d.OwnsTags) (widgetId timestamp : String) :
    s.Servable (s.rendered d widgetId timestamp) where
  coherent := s.coherent_rendered d widgetId timestamp
  tags := Description.ownsTags_repaired h

variable {σ : Type} {cache : Cache σ} {held : σ → Response → Prop}

/-- A property of all responses that the cache holds is one of the answer too, and of all that is
held afterwards, if fresh responses have it and reading a response back does not lose it. -/
theorem generate_keeps (hcache : cache.Returns held) {P : Response → Prop}
    (hback : ∀ {r r'}, P r → Response.parse r.text = .ok r' → P r') {st : ServiceState σ}
    (hheld : ∀ r, held st.cache r → P r) {model : Model} {prompt : String}
    (hfresh : P (s.freshResponse (model.generate prompt) (s.stamp st.issued))) :
    (∀ r, (s.generate cache model prompt st).1.result = .ok r → P r)
      ∧ ∀ r, held (s.generate cache model prompt st).2.cache r → P r := by
  by_cases hfound : ∃ r, (cache.get (cacheKey prompt) st.cache).1 = .ok (some r)
  · obtain ⟨r, hr⟩ := hfound
    rw [generate_of_found s cache hr]
    refine ⟨fun r' hr' => ?_, fun r' hr' => hheld r' (hcache.get hr')⟩
    obtain rfl := Except.ok.inj hr'
    exact hheld r (hcache.found hr)
  · rw [generate_of_not_found s cache (not_exists.1 hfound)]
    refine ⟨fun r' hr' => ?_, fun r' hr' => ?_⟩
    · obtain rfl := Except.ok.inj hr'
      exact hfresh
    · dsimp only at hr'
      split at hr'
      · rcases hcache.put hr' with rfl | hparse | hr'
        · exact hfresh
        · exact hback hfresh hparse
        · exact hheld r' (hcache.get hr')
      · exact hheld r' (hcache.get hr')

/-- After a step on decoded descriptions the cache holds servable responses only, if it did before,
and what the step hands out is servable. -/
theorem servable_act (hcache : cache.Returns held) {st : ServiceState σ}
    (hheld : ∀ r, held st.cache r → s.Servable r) {a : Step} (ha : a.Decodes) :
    (∀ r calls, (s.act cache a st).1 = .answer ⟨.ok r, calls⟩ → s.Servable r)
      ∧ ∀ r, held (s.act cache a st).2.cache r → s.Servable r := by
  have hback {r r' : Response} (hr : s.Servable r) (h : Response.parse r.text = .ok r') :
      s.Servable r' :=
    Response.eq_of_parse_text hr.tags h ▸ hr
  cases ha with
  | @generate model prompt hmodel =>
    have hfresh : s.Servable (s.freshResponse (model.generate prompt) (s.stamp st.issued)) := by
      rw [freshResponse, outcome_fst]
      exact s.servable_rendered (ownsTags_generated hmodel prompt) _ _
    obtain ⟨hanswer, hafter⟩ := s.generate_keeps hcache hback hheld hfresh
    refine ⟨fun r calls h => hanswer r ?_, hafter⟩
    rw [act] at h
    rw [Reply.answer.inj h]
  | edit hmodel hcurrent =>
    refine ⟨fun r calls h => ?_, hheld⟩
    rw [act, edit_eq] at h
    obtain rfl := Except.ok.inj (congrArg Answer.result (Reply.answer.inj h))
    have htags := Description.isDecoded_iff.1 hcurrent
    exact s.servable_rendered (ownsTags_edited hmodel htags _) _ _
  | bundle =>
    refine ⟨fun r calls h => ?_, hheld⟩
    cases h

/-! ## 3. Runs -/

/-- A response that a service hands out in some run on decoded descriptions, whatever its models
answer, from an empty cache of any sort. -/
inductive Served : Response → Prop
  | intro {σ : Type} {cache : Cache σ} {held : σ → Response → Prop} {start : σ}
    {first edits : Nat} {steps : List Step} {e : Event} {r : Response} {calls : List ModelCall}
    (returns : cache.Returns held) (empty : ∀ r, ¬held start r)
    (decodes : ∀ a ∈ steps, a.Decodes) (made : e ∈ s.events cache steps ⟨start, first, edits⟩)
    (answered : e.reply = .answer ⟨.ok r, calls⟩) : Served r

variable {s}

/-- **Everything served is coherent and can be read back.** -/
theorem Served.servable {r : Response} (h : s.Served r) : s.Servable r := by
  obtain @⟨σ, cache, held, start, first, edits, steps, e, r, calls, hcache, hempty, hsteps, he,
    hreply⟩ := h
  let Kept (past : List Event) (st : ServiceState σ) : Prop :=
    (∀ e ∈ past, ∀ r calls, e.reply = .answer ⟨.ok r, calls⟩ → s.Servable r)
      ∧ ∀ r, held st.cache r → s.Servable r
  have keep (past : List Event) (st : ServiceState σ) (a : Step) (ha : a.Decodes)
      (hkept : Kept past st) : Kept (past ++ [s.event cache a st]) (s.act cache a st).2 := by
    obtain ⟨hpast, hheld⟩ := hkept
    obtain ⟨hanswer, hafter⟩ := s.servable_act hcache hheld ha
    refine ⟨fun e he => ?_, hafter⟩
    rcases List.mem_append.1 he with he | he
    · exact hpast e he
    · rw [List.mem_singleton.1 he]
      exact hanswer
  have start : Kept [] ⟨start, first, edits⟩ :=
    ⟨fun e he => absurd he List.not_mem_nil, fun r hr => absurd hr (hempty r)⟩
  obtain ⟨hevents, -⟩ := s.events_induction_of_forall cache keep start steps hsteps
  exact hevents e he r calls hreply

/-- Whatever was decoded may be served: some model answers with it. -/
theorem served_rendered {d : Description} (h : d.OwnsTags) :
    s.Served (s.rendered d (s.stamp 0).widgetId (s.stamp 0).timestamp) := by
  let model : Model := ⟨fun _ => .ok d, fun _ _ => .ok d⟩
  have hdecoded : d.IsDecoded := Description.isDecoded_iff.2 h
  have hmodel : model.Decodes :=
    ⟨fun hreply => Except.ok.inj hreply ▸ hdecoded, fun hreply => Except.ok.inj hreply ▸ hdecoded⟩
  have hsteps : ∀ a ∈ [Step.generate model ""], a.Decodes :=
    List.forall_mem_singleton.2 (.generate hmodel)
  have hcache := Cache.givesBack_inProcess.returns
  have hmiss := hcache.get_ne Cache.Table.not_holds_nil (cacheKey "")
  have hanswer : (s.event .inProcess (.generate model "") ⟨[], 0, 0⟩).reply
      = .answer ⟨.ok (s.rendered d (s.stamp 0).widgetId (s.stamp 0).timestamp),
        [.generate ""]⟩ := by
    rw [event, act, generate_of_not_found s .inProcess hmiss]
    rfl
  exact .intro hcache Cache.Table.not_holds_nil hsteps List.mem_cons_self hanswer

theorem ownsTags_twinsWidget : twinsWidget.OwnsTags := by
  intro e he
  simp only [twinsWidget, List.mem_cons, List.not_mem_nil, or_false] at he
  rcases he with rfl | rfl | rfl <;> exact ElementKind.ownsTag_of_mem_known (by decide)

theorem decodes_twinsModel : twinsModel.Decodes where
  generate hreply := by
    rw [← Except.ok.inj hreply]
    exact Description.isDecoded_iff.2 ownsTags_twinsWidget
  edit hreply := nomatch hreply

/-- The response for a widget that repeats an id. -/
def twinsResponse : Response :=
  twinsService.rendered twinsWidget (twinsService.stamp 0).widgetId
    (twinsService.stamp 0).timestamp

theorem served_twinsResponse : twinsService.Served twinsResponse :=
  served_rendered ownsTags_twinsWidget

end Service

end Widgetry
