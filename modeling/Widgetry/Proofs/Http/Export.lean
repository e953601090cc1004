import Widgetry.Proofs.Http.Bodies
import Widgetry.Proofs.Http.Refusal
import Widgetry.Proofs.Service.Served

/-!
Export of what was handed out. Main statement: the body of any answer to a request for a new widget
or for an edit can be posted as it is to the export, at any time, and is answered with the bundle of
the response that it holds (`export_takes_back`).

An exportable response owns its tags, so that it is read back from its text, and has an id that the
export accepts. Generated ids are such ids, and the id of an edit was accepted before. So every
answer is exportable, and only exportable responses ever get into the cache (`held_handle`).
-/

namespace Widgetry.Http

/-! ## 1. Ids and texts -/

/-- Whether a text is a generated id: 36 hexadecimal digits and hyphens. -/
structure IsGeneratedId (id : String) : Prop where
  length : id.length = 36
  letters : ∀ c ∈ id.toList,
    '0' ≤ c ∧ c ≤ '9' ∨ 'a' ≤ c ∧ c ≤ 'f' ∨ 'A' ≤ c ∧ c ≤ 'F' ∨ c = '-'

theorem IsGeneratedId.isWidgetId {id : String} (h : IsGeneratedId id) : IsWidgetId id := by
  refine ⟨by rw [h.length]; decide, by rw [h.length]; decide, fun c hc => ?_⟩
  rcases h.letters c hc with hdigit | ⟨ha, hf⟩ | ⟨hA, hF⟩ | hhyphen
  · exact .inr (.inr (.inl hdigit))
  · exact .inr (.inl ⟨ha, Char.le_trans hf (by decide)⟩)
  · exact .inl ⟨hA, Char.le_trans hF (by decide)⟩
  · exact .inr (.inr (.inr (.inl hhyphen)))

/-- The text that is sent as a body. -/
def Body.text : Body → String
  | .empty => ""
  | .document v => v.compact
  | .plain text => text

/-- A request that posts its body to a route. -/
structure Request.PostsTo (request : Request) (route : Route) : Prop where
  method : request.method = "POST"
  path : targetPath request.target = route.path

/-- A response that is read back from its text, under an id that the export accepts. -/
structure Exportable (r : Response) : Prop where
  tags : r.widget.OwnsTags
  id : IsWidgetId r.widgetId

variable {σ : Type} {service : Service} {cache : Cache σ} {model : Model} {cors : Cors}
  {request : Request} {st : ServiceState σ} {held : σ → Response → Prop}

theorem exportable_rendered {d : Description} (hd : d.OwnsTags) {id : String} (hid : IsWidgetId id)
    (timestamp : String) : Exportable (service.rendered d id timestamp) where
  tags := Description.ownsTags_repaired hd
  id := hid

/-! ## 2. One request -/

/-- What a request for a new widget or an edit does to a service that holds exportable responses
only: if it is answered with success then with an exportable response, and there are no others
afterwards. -/
structure HandsOut (held : σ → Response → Prop) (p : Outcome × ServiceState σ) : Prop where
  answer : p.1.status = 200 → ∃ r, Exportable r ∧ p.1.body = .document r.value
  after : ∀ r, held p.2.cache r → Exportable r

/-- A refused request hands out nothing. -/
theorem handsOut_refusal (hheld : ∀ r, held st.cache r → Exportable r) {o : Outcome}
    (h : o.IsRefusal) : HandsOut held (o, st) where
  answer hstatus := by
    have hrefused := h.status
    rw [show o.status = 200 from hstatus] at hrefused
    simp [refusalStatuses] at hrefused
  after := hheld

theorem handsOut_generate (hcache : cache.Returns held)
    (hheld : ∀ r, held st.cache r → Exportable r) (hmodel : model.Decodes)
    (hids : ∀ n, IsGeneratedId (service.stamp n).widgetId) :
    HandsOut held (post service cache model .generate request st) := by
  cases hread : readBody GenerateRequest.record.decoder request with
  | error o =>
    rw [post, hread]
    exact handsOut_refusal hheld (isRefusal_of_readBody hread)
  | ok r =>
    rw [post, hread]
    dsimp only
    split
    · have hfresh : Exportable
          (service.freshResponse (model.generate r.prompt) (service.stamp st.issued)) := by
        rw [Service.freshResponse, Service.outcome_fst]
        exact exportable_rendered (Service.ownsTags_generated hmodel r.prompt)
          (hids st.issued).isWidgetId _
      have hback {r r' : Response} (hr : Exportable r) (h : Response.parse r.text = .ok r') :
          Exportable r' :=
        Response.eq_of_parse_text hr.tags h ▸ hr
      obtain ⟨hanswer, hafter⟩ := service.generate_keeps hcache hback hheld hfresh
      obtain ⟨response, hresponse⟩ := service.exists_generate_result cache model r.prompt st
      rw [hresponse]
      exact ⟨fun _ => ⟨response, hanswer response hresponse, rfl⟩, hafter⟩
    · exact handsOut_refusal hheld (isRefusal_validation _)

theorem handsOut_edit (hheld : ∀ r, held st.cache r → Exportable r) (hmodel : model.Decodes) :
    HandsOut held (post service cache model .edit request st) := by
  cases hread : readBody EditRequest.record.decoder request with
  | error o =>
    rw [post, hread]
    exact handsOut_refusal hheld (isRefusal_of_readBody hread)
  | ok r =>
    rw [post, hread]
    dsimp only
    split
    · rename_i hclean
      have hid : IsWidgetId r.widgetId :=
        (EditRequest.problems_eq_nil_iff.1 (List.isEmpty_iff.1 hclean)).2
      have hcurrent : r.current.OwnsTags := ensures_of_readBody EditRequest.ownsTags_decoder hread
      rw [Service.edit_eq]
      refine ⟨fun _ => ⟨_, exportable_rendered ?_ hid _, rfl⟩, hheld⟩
      exact Service.ownsTags_edited hmodel hcurrent r.instruction
    · exact handsOut_refusal hheld (isRefusal_validation _)

/-- Only requests for a new widget change the cache. -/
theorem cache_post {route : Route} (h : route ≠ .generate) :
    (post service cache model route request st).2.cache = st.cache := by
  have hdownload (route : Route) (hgenerate : route ≠ .generate) (hedit : route ≠ .edit) :
      (post service cache model route request st).2.cache = st.cache := by
    rw [post]
    · cases readBody Response.decoder request with
      | error o => rfl
      | ok r =>
        dsimp only
        cases idProblem? r.widgetId <;> rfl
    · exact hgenerate
    · exact hedit
  cases route with
  | generate => exact absurd rfl h
  | edit =>
    rw [post]
    cases readBody EditRequest.record.decoder request with
    | error o => rfl
    | ok r =>
      dsimp only
      split
      · simp only [Service.edit_eq]
      · rfl
  | _ => exact hdownload _ (by decide) (by decide)

/-- A request leaves the cache as it is, or does to it what a posted one for a new widget does. -/
theorem cache_handle : (handle service cache model cors request st).2.cache = st.cache
    ∨ (handle service cache model cors request st).2.cache
      = (post service cache model .generate request st).2.cache := by
  rw [handle]
  split
  · exact .inl rfl
  · cases Route.ofTarget request.target with
    | none => exact .inl rfl
    | some route =>
      dsimp only
      rw [serve]
      split
      · by_cases hroute : route = .generate
        · exact .inr (by rw [hroute])
        · exact .inl (cache_post hroute)
      · split
        · exact .inl rfl
        · split <;> exact .inl rfl

/-- Whatever is requested, only exportable responses get into the cache. -/
theorem held_handle (hcache : cache.Returns held) (hheld : ∀ r, held st.cache r → Exportable r)
    (hmodel : model.Decodes) (hids : ∀ n, IsGeneratedId (service.stamp n).widgetId) (r : Response)
    (hr : held (handle service cache model cors request st).2.cache r) : Exportable r := by
  have heither : (handle service cache model cors request st).2.cache = st.cache
      ∨ (handle service cache model cors request st).2.cache
        = (post service cache model .generate request st).2.cache := cache_handle
  rcases heither with hkept | hmade
  · rw [hkept] at hr
    exact hheld r hr
  · rw [hmade] at hr
    exact (handsOut_generate hcache hheld hmodel hids).after r hr

/-- A request for a new widget or an edit that is answered with success is answered with an
exportable response. -/
theorem exportable_answer (hcache : cache.Returns held)
    (hheld : ∀ r, held st.cache r → Exportable r) (hmodel : model.Decodes)
    (hids : ∀ n, IsGeneratedId (service.stamp n).widgetId)
    (hmade : request.PostsTo .generate ∨ request.PostsTo .edit)
    (hstatus : (handle service cache model cors request st).1.status = 200) :
    ∃ r, Exportable r
      ∧ (handle service cache model cors request st).1.body = .document r.value := by
  rcases hmade with ⟨hmethod, hpath⟩ | ⟨hmethod, hpath⟩
  · obtain ⟨headers, hhandle⟩ := exists_handle_post hmethod hpath rfl
    rw [hhandle] at hstatus ⊢
    exact (handsOut_generate hcache hheld hmodel hids).answer hstatus
  · obtain ⟨headers, hhandle⟩ := exists_handle_post hmethod hpath rfl
    rw [hhandle] at hstatus ⊢
    exact (handsOut_edit hheld hmodel).answer hstatus

/-- The text of an exportable response is answered with its bundle, whatever the state. -/
theorem handle_export {r : Response} (hr : Exportable r) (hposts : request.PostsTo .download)
    (hannounced : request.IsAnnounced) (hbody : request.body = r.value.compact)
    (hsize : request.body.utf8ByteSize ≤ bodyLimit) :
    ∃ headers, (handle service cache model cors request st).1
      = ⟨200, headers, .document (Service.toExport r).value, []⟩ := by
  have htext : Response.decoder.ofText request.body = .ok r := by
    rw [hbody]
    exact Response.parse_saved hr.tags .compact
  have hread : readBody Response.decoder request = .ok r :=
    readBody_eq_ok_iff.2 ⟨hannounced, hsize, htext⟩
  have hid : idProblem? r.widgetId = none := idProblem?_eq_none_iff.2 hr.id
  obtain ⟨headers, hhandle⟩ := exists_handle_post hposts.method hposts.path rfl
  refine ⟨headers, ?_⟩
  rw [hhandle, post, hread]
  · dsimp only
    rw [hid]
    rfl
  all_goals decide

/-- A body that is too long for the export is refused. -/
theorem handle_export_of_long (hposts : request.PostsTo .download)
    (hannounced : request.IsAnnounced) (hsize : bodyLimit < request.body.utf8ByteSize) :
    (handle service cache model cors request st).1.status = 413
      ∧ (handle service cache model cors request st).1.calls = [] := by
  have hread : readBody Response.decoder request
      = .error (plainOutcome 413
        "Failed to buffer the request body: length limit exceeded") := by
    rw [readBody, hannounced, if_neg (by simp), if_pos hsize]
  obtain ⟨headers, hhandle⟩ := exists_handle_post hposts.method hposts.path rfl
  rw [hhandle, post, hread]
  · exact ⟨rfl, rfl⟩
  all_goals decide

/-! ## 3. Sequences of requests -/

/-- Every request of a sequence is answered in a state that has what the start has and every request
keeps. -/
theorem exists_state_of_outcomes {I : ServiceState σ → Prop} {xs : List Exchange}
    (hkeep : ∀ x ∈ xs, ∀ st, I st → I (handle service cache x.model cors x.request st).2)
    {st : ServiceState σ} (hstart : I st) {i : Nat} {x : Exchange} (hx : xs[i]? = some x) :
    ∃ st', I st' ∧ (outcomes service cache cors xs st)[i]?
      = some (handle service cache x.model cors x.request st').1 := by
  induction xs generalizing i st with
  | nil => cases hx
  | cons y ys ih =>
    obtain ⟨hy, hys⟩ := List.forall_mem_cons.1 hkeep
    cases i with
    | zero =>
      obtain rfl : y = x := Option.some.inj hx
      exact ⟨st, hstart, rfl⟩
    | succ i => exact ih hys (hy st hstart) hx

/-- **Whatever is handed out, the export takes back.** In any sequence of requests to a service that
starts with nothing in its cache, whose models answer with decoded descriptions or fail and whose
generated ids are of the usual form: the body of a successful answer to a request for a new widget
or an edit can be posted as it is to the export, at any time, unless it is too long. The answer is
the bundle of the same widget with the same code and snippet, under the id of the response. -/
theorem export_takes_back (hcache : cache.Returns held) (hempty : ∀ r, ¬held st.cache r)
    (hids : ∀ n, IsGeneratedId (service.stamp n).widgetId) {xs : List Exchange}
    (hmodels : ∀ x ∈ xs, x.model.Decodes) {i j : Nat} {x y : Exchange} {o : Outcome}
    (hx : xs[i]? = some x) (hmade : x.request.PostsTo .generate ∨ x.request.PostsTo .edit)
    (ho : (outcomes service cache cors xs st)[i]? = some o) (hanswered : o.status = 200)
    (hy : xs[j]? = some y) (hposted : y.request.PostsTo .download)
    (hannounced : y.request.IsAnnounced) (hverbatim : y.request.body = o.body.text) :
    ∃ (r : Response) (o' : Outcome), o.body = .document r.value
      ∧ (outcomes service cache cors xs st)[j]? = some o' ∧ o'.calls = []
      ∧ (o.body.text.utf8ByteSize ≤ bodyLimit → o'.status = 200
        ∧ ∃ e : Export, o'.body = .document e.value ∧ e.reactCode = r.reactCode
          ∧ e.embedCode = r.embedCode ∧ e.widget = r.widget
          ∧ e.downloadUrl = "/api/download/" ++ r.widgetId)
      ∧ (bodyLimit < o.body.text.utf8ByteSize → o'.status = 413) := by
  -- the invariant: the cache holds exportable responses only, whatever the requests are
  let Kept (st : ServiceState σ) : Prop := ∀ r, held st.cache r → Exportable r
  have hkeep : ∀ x ∈ xs, ∀ st, Kept st →
      Kept (handle service cache x.model cors x.request st).2 := by
    intro x hx st hst r hr
    exact held_handle hcache hst (hmodels x hx) hids r hr
  have hstart : Kept st := fun r hr => absurd hr (hempty r)
  obtain ⟨sti, hsti, hi⟩ := exists_state_of_outcomes hkeep hstart hx
  obtain ⟨stj, -, hj⟩ := exists_state_of_outcomes hkeep hstart hy
  obtain rfl := Option.some.inj (ho.symm.trans hi)
  have hmodel := hmodels x (List.mem_of_getElem? hx)
  obtain ⟨r, hr, hbody⟩ := exportable_answer hcache hsti hmodel hids hmade hanswered
  -- the body that comes back is the compact text of a response
  have hcompact : y.request.body = r.value.compact := by
    rw [hverbatim, hbody, Body.text]
  rw [← hverbatim]
  refine ⟨r, _, hbody, hj, ?_, fun hsize => ?_, fun hsize => ?_⟩
  · rcases Nat.lt_or_ge bodyLimit y.request.body.utf8ByteSize with hsize | hsize
    · exact (handle_export_of_long hposted hannounced hsize).2
    · obtain ⟨headers, hexport⟩ := handle_export hr hposted hannounced hcompact hsize
      rw [hexport]
  · obtain ⟨headers, hexport⟩ := handle_export hr hposted hannounced hcompact hsize
    rw [hexport]
    exact ⟨rfl, Service.toExport r, rfl, rfl, rfl, rfl, rfl⟩
  · exact (handle_export_of_long hposted hannounced hsize).1

/-- A service that always gives out the same stamp, which has a generated id. -/
def stampedService : Service where
  cdn := Component.defaultCdn
  ttl := 1000
  stamp _ := ⟨"3f2504e0-4f89-41d3-9a0c-0305e82c3301", "2024-01-01T00:00:00Z"⟩
  editTime _ := "2024-01-02T00:00:00Z"

/-- The response of this service for a widget that repeats an id. -/
def stampedResponse : Response :=
  stampedService.freshResponse (Service.twinsModel.generate "twins") (stampedService.stamp 0)

theorem isGeneratedId_stampedService (n : Nat) :
    IsGeneratedId (stampedService.stamp n).widgetId := by
  have hid : IsGeneratedId "3f2504e0-4f89-41d3-9a0c-0305e82c3301" :=
    ⟨by decide, by simp⟩
  exact hid

/-- The request for this widget. -/
def twinsRequest : Request :=
  posted "/api/generate-widget" (.object [("prompt", .text "twins")])

theorem postsTo_twinsRequest : twinsRequest.PostsTo .generate where
  method := rfl
  path := by decide +kernel

theorem handle_twinsRequest : ∃ headers,
    (handle stampedService .inProcess Service.twinsModel .any twinsRequest ⟨[], 0, 0⟩).1
      = ⟨200, headers, .document stampedResponse.value, [.generate "twins"]⟩ := by
  have hbody : Route.generate.takesBody = true := rfl
  have hread : readBody GenerateRequest.record.decoder twinsRequest = .ok ⟨"twins", none⟩ := by
    refine readBody_posted ?_ (by decide +kernel) rfl _
    simp [Json.Value.Legible, Json.Value.LegibleHere]
  have hmiss := Cache.givesBack_inProcess.returns.get_ne Cache.Table.not_holds_nil (cacheKey "twins")
  obtain ⟨headers, hhandle⟩ :=
    exists_handle_post postsTo_twinsRequest.method postsTo_twinsRequest.path hbody
  refine ⟨headers, ?_⟩
  rw [hhandle, post, hread]
  dsimp only
  rw [if_pos (by decide), Service.generate_of_not_found _ _ hmiss]
  rfl

/-- A new widget, and its response sent to the export. -/
def takenBack : List Exchange :=
  [⟨twinsRequest, Service.twinsModel⟩,
   ⟨posted "/api/export-widget" stampedResponse.value, Service.twinsModel⟩]

theorem export_takes_back_twins :
    let answers := outcomes stampedService .inProcess .any takenBack ⟨[], 0, 0⟩
    ∃ o, answers[0]? = some o ∧ o.status = 200 ∧ o.body = .document stampedResponse.value
      ∧ ∃ (r : Response) (o' : Outcome), o.body = .document r.value ∧ answers[1]? = some o'
        ∧ o'.calls = []
        ∧ (o.body.text.utf8ByteSize ≤ bodyLimit → o'.status = 200
          ∧ ∃ e : Export, o'.body = .document e.value ∧ e.reactCode = r.reactCode
            ∧ e.embedCode = r.embedCode ∧ e.widget = r.widget
            ∧ e.downloadUrl = "/api/download/" ++ r.widgetId)
        ∧ (bodyLimit < o.body.text.utf8ByteSize → o'.status = 413) := by
  have hmodels : ∀ x ∈ takenBack, x.model.Decodes := by
    simp only [takenBack, List.forall_mem_cons, List.not_mem_nil, false_implies, implies_true,
      and_true]
    exact ⟨Service.decodes_twinsModel, Service.decodes_twinsModel⟩
  have hposted : (posted "/api/export-widget" stampedResponse.value).PostsTo .download := by
    have hpath : targetPath "/api/export-widget" = Route.download.path := by decide +kernel
    exact ⟨rfl, hpath⟩
  have hannounced : (posted "/api/export-widget" stampedResponse.value).IsAnnounced := by
    have htype : isJsonType "application/json" = true := by decide +kernel
    simp [Request.IsAnnounced, posted, Headers.get?, htype]
  have hx : takenBack[0]? = some ⟨twinsRequest, Service.twinsModel⟩ := rfl
  have hy : takenBack[1]? = some ⟨posted "/api/export-widget" stampedResponse.value,
      Service.twinsModel⟩ := rfl
  obtain ⟨headers, hanswer⟩ := handle_twinsRequest
  let o : Outcome := ⟨200, headers, .document stampedResponse.value, [.generate "twins"]⟩
  have ho : (outcomes stampedService .inProcess .any takenBack ⟨[], 0, 0⟩)[0]? = some o :=
    congrArg some hanswer
  have hback := export_takes_back Cache.givesBack_inProcess.returns Cache.Table.not_holds_nil
    isGeneratedId_stampedService hmodels hx (.inl postsTo_twinsRequest) ho rfl hy hposted
    hannounced rfl
  exact ⟨o, ho, rfl, rfl, hback⟩

end Widgetry.Http
