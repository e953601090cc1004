import Widgetry.Http.Router
import Widgetry.Proofs.Json.Decoding
import Widgetry.Proofs.Json.Printing
import Widgetry.Proofs.Service.Memo

/-!
Requests that are refused. Every request of a sequence is either answered with success or refused
for its route, its method or its body, and a refusal makes no call and leaves the state of the
service alone (`handle_settled`). Main statements: a refused request could be left out of the
sequence without a change to the other answers, and which bodies are refused for the limits on their
fields (`refusals_without_effect`); and no request is ever answered with a failure of the server,
since neither generating nor editing can fail (`service_never_fails`).

What a refusal depends on is the request alone. So a sequence is cut at the refused request: up to
it nothing changes, it changes nothing itself, and behind it every request meets the state that it
would have met. The bounds on the fields are bounds on characters, and their two sides are shown on
bodies whose bytes are twice as many.
-/

namespace Widgetry.Http

/-! ## 1. Sequences of requests -/

/-- A request, and the model that answers while it is handled. -/
structure Exchange where
  request : Request
  model : Model

section

variable {σ : Type} (service : Service) (cache : Cache σ) (cors : Cors)

/-- The answers to requests one after another. -/
def outcomes : List Exchange → ServiceState σ → List Outcome
  | [], _ => []
  | x :: xs, st =>
    (handle service cache x.model cors x.request st).1
      :: outcomes xs (handle service cache x.model cors x.request st).2

end

/-! ## 2. Refusals -/

/-- The statuses of refused requests. -/
def refusalStatuses : List Nat := [400, 404, 405, 413, 415, 422]

/-- An answer that refuses a request. -/
structure Outcome.IsRefusal (o : Outcome) : Prop where
  status : o.status ∈ refusalStatuses
  calls : o.calls = []

/-- A request is settled: it is answered with success, or it is refused and the state is as before.
-/
inductive Settled {σ : Type} (st : ServiceState σ) : Outcome × ServiceState σ → Prop
  | success {o : Outcome} {st' : ServiceState σ} (status : o.status = 200) : Settled st (o, st')
  | refusal {o : Outcome} (refused : o.IsRefusal) : Settled st (o, st)

theorem isRefusal_unreadOutcome (e : Json.Error) : (unreadOutcome e).IsRefusal := by
  unfold unreadOutcome
  cases e.problem <;> exact ⟨by simp [refusalStatuses, plainOutcome], rfl⟩

/-- Whatever is wrong with a body, the answer is a refusal. -/
theorem isRefusal_of_readBody {α : Type} {read : Json.Decoder α} {request : Request} {o : Outcome}
    (h : readBody read request = .error o) : o.IsRefusal := by
  unfold readBody at h
  split at h
  · obtain rfl := Except.error.inj h
    exact ⟨by simp [refusalStatuses, plainOutcome], rfl⟩
  · split at h
    · obtain rfl := Except.error.inj h
      exact ⟨by simp [refusalStatuses, plainOutcome], rfl⟩
    · obtain ⟨e, -, rfl⟩ := Json.mapError_eq_error_iff.1 h
      exact isRefusal_unreadOutcome e

theorem isRefusal_validation (message : String) :
    ((ApiError.validation message).outcome []).IsRefusal :=
  ⟨by simp [refusalStatuses, ApiError.outcome, ApiError.status, documentOutcome], rfl⟩

variable {σ : Type} {service : Service} {cache : Cache σ} {model : Model} {cors : Cors}
  {request : Request} {st : ServiceState σ}

/-- A body that was read is judged by the problems of its fields: it is answered with success if
there are none, and refused with a list of them otherwise. -/
inductive Judged (st : ServiceState σ) (problems : List String) :
    Outcome × ServiceState σ → Prop
  | accepted {o : Outcome} {st' : ServiceState σ} (clean : problems = [])
    (status : o.status = 200) : Judged st problems (o, st')
  | refused (faulty : problems ≠ []) :
    Judged st problems ((ApiError.validation (joinLines problems)).outcome [], st)

theorem Judged.settled {problems : List String} {p : Outcome × ServiceState σ}
    (h : Judged st problems p) : Settled st p := by
  cases h with
  | accepted _ status => exact .success status
  | refused _ => exact .refusal (isRefusal_validation _)

/-- The answer is in order exactly if there is no problem, and otherwise says that the content is.
-/
theorem Judged.status {problems : List String} {p : Outcome × ServiceState σ}
    (h : Judged st problems p) :
    (p.1.status = 200 ↔ problems = []) ∧ (problems ≠ [] → p.1.status = 422) := by
  cases h with
  | accepted clean status => exact ⟨iff_of_true status clean, fun faulty => absurd clean faulty⟩
  | refused faulty =>
    refine ⟨iff_of_false ?_ faulty, fun _ => rfl⟩
    simp [ApiError.outcome, ApiError.status, documentOutcome]

/-- What is only done with a body without problems decides how this body is answered. -/
theorem judged_ite {problems : List String} {p : Outcome × ServiceState σ}
    (hstatus : p.1.status = 200) :
    Judged st problems (if problems.isEmpty then p
      else ((ApiError.validation (joinLines problems)).outcome [], st)) := by
  split
  · rename_i hclean
    exact .accepted (List.isEmpty_iff.1 hclean) hstatus
  · rename_i hfaulty
    exact .refused fun hclean => hfaulty (List.isEmpty_iff.2 hclean)

/-- A request for a widget is judged by its problems alone: the service behind it always answers. -/
theorem judged_generate {r : GenerateRequest}
    (h : readBody GenerateRequest.record.decoder request = .ok r) :
    Judged st r.problems (post service cache model .generate request st) := by
  obtain ⟨response, hresponse⟩ := service.exists_generate_result cache model r.prompt st
  rw [post, h]
  refine judged_ite ?_
  dsimp only
  rw [hresponse]
  rfl

/-- A request for an edit is judged by its problems alone. -/
theorem judged_edit {r : EditRequest} (h : readBody EditRequest.record.decoder request = .ok r) :
    Judged st r.problems (post service cache model .edit request st) := by
  obtain ⟨response, hresponse⟩ :=
    service.exists_edit_result model r.widgetId r.instruction r.current st
  rw [post, h]
  refine judged_ite ?_
  dsimp only
  rw [hresponse]
  rfl

/-- A response that comes back for export is judged by its id alone. -/
theorem judged_download {r : Response} (h : readBody Response.decoder request = .ok r) :
    Judged st ((idProblem? r.widgetId).toList.map IdProblem.message)
      (post service cache model .download request st) := by
  rw [post, h]
  · dsimp only
    cases hproblem : idProblem? r.widgetId with
    | none => exact .accepted rfl rfl
    | some p =>
      have hlines : joinLines [p.message] = p.message := rfl
      dsimp only
      rw [← hlines]
      exact .refused (by simp)
  all_goals nofun

/-- A request on a route that takes a body is settled. -/
theorem settled_post {route : Route} (hroute : route.takesBody = true) :
    Settled st (post service cache model route request st) := by
  cases route with
  | generate =>
    cases hread : readBody GenerateRequest.record.decoder request with
    | error o =>
      rw [post, hread]
      exact .refusal (isRefusal_of_readBody hread)
    | ok r => exact (judged_generate hread).settled
  | edit =>
    cases hread : readBody EditRequest.record.decoder request with
    | error o =>
      rw [post, hread]
      exact .refusal (isRefusal_of_readBody hread)
    | ok r => exact (judged_edit hread).settled
  | download =>
    cases hread : readBody Response.decoder request with
    | error o =>
      rw [post, hread]
      · exact .refusal (isRefusal_of_readBody hread)
      all_goals nofun
    | ok r => exact (judged_download hread).settled
  | _ => cases hroute

/-- A request on a route is settled. -/
theorem settled_serve (route : Route) :
    Settled st (serve service cache model route request st) := by
  rw [serve]
  split
  · rename_i hpost
    exact settled_post (Bool.and_eq_true_iff.1 hpost).1
  · split
    · exact .success rfl
    · split
      · exact .success rfl
      · exact .refusal ⟨by simp [refusalStatuses], rfl⟩

/-- Headers do not matter to how a request is settled. -/
theorem Settled.addHeaders {p : Outcome × ServiceState σ} (h : Settled st p) (headers : Headers) :
    Settled st ({ p.1 with headers := headers }, p.2) := by
  cases h with
  | success status => exact .success status
  | refusal refused => exact .refusal ⟨refused.status, refused.calls⟩

/-- Every request is settled. -/
theorem settled_handle : Settled st (handle service cache model cors request st) := by
  rw [handle]
  split
  · exact .success rfl
  · cases hroute : Route.ofTarget request.target with
    | none => exact .refusal ⟨by simp [refusalStatuses], rfl⟩
    | some route => exact Settled.addHeaders (settled_serve route) _

/-- There is no other status: neither a redirection nor a failure of the service. -/
theorem Settled.status {p : Outcome × ServiceState σ} (h : Settled st p) :
    p.1.status = 200 ∨ p.1.status ∈ refusalStatuses := by
  cases h with
  | success status => exact .inl status
  | refusal refused => exact .inr refused.status

/-- A request that is not answered with success is refused. -/
theorem Settled.refused {p : Outcome × ServiceState σ} (h : Settled st p)
    (hstatus : p.1.status ≠ 200) : p.1.calls = [] ∧ p.2 = st := by
  cases h with
  | success status => exact absurd status hstatus
  | refusal refused => exact ⟨refused.calls, rfl⟩

/-! ## 3. Limits on fields -/

/-- Whether a text may be the id of a widget: 1 to 128 letters, digits, hyphens and underscores. -/
def IsWidgetId (id : String) : Prop :=
  1 ≤ id.length ∧ id.length ≤ 128 ∧ ∀ c ∈ id.toList,
    'A' ≤ c ∧ c ≤ 'Z' ∨ 'a' ≤ c ∧ c ≤ 'z' ∨ '0' ≤ c ∧ c ≤ '9' ∨ c = '-' ∨ c = '_'

/-- Ids are made of ASCII letters, digits, hyphens and underscores. -/
theorem isIdChar_iff {c : Char} :
    isIdChar c = true
      ↔ 'A' ≤ c ∧ c ≤ 'Z' ∨ 'a' ≤ c ∧ c ≤ 'z' ∨ '0' ≤ c ∧ c ≤ '9' ∨ c = '-' ∨ c = '_' := by
  change (decide (c.val ≥ 65 ∧ c.val ≤ 90) || (decide (c.val ≥ 97) && decide (c.val ≤ 122))
    || (decide (c.val ≥ 48) && decide (c.val ≤ 57)) || c == '-' || c == '_') = true ↔ _
  simp only [Bool.or_eq_true, Bool.and_eq_true, decide_eq_true_eq, beq_iff_eq, or_assoc]
  exact Iff.rfl

/-- There is no problem with an id exactly if it is one of a widget. -/
theorem idProblem?_eq_none_iff {id : String} : idProblem? id = none ↔ IsWidgetId id := by
  rw [idProblem?, IsWidgetId]
  split
  · rename_i hlength
    rw [Bool.or_eq_true, beq_iff_eq, decide_eq_true_eq] at hlength
    exact iff_of_false nofun fun h => by omega
  · rename_i hlength
    rw [Bool.or_eq_true, beq_iff_eq, decide_eq_true_eq] at hlength
    have hbounds : 1 ≤ id.length ∧ id.length ≤ 128 := by omega
    simp only [← isIdChar_iff, ← List.all_eq_true, hbounds, true_and]
    cases id.toList.all isIdChar <;> simp

/-- A prompt is accepted up to its last allowed character; characters are counted, not bytes. -/
theorem GenerateRequest.problems_eq_nil_iff {r : GenerateRequest} :
    r.problems = [] ↔ r.prompt.length ≤ 4000 := by
  rw [problems]
  split
  · rename_i h
    exact iff_of_true rfl h
  · rename_i h
    exact iff_of_false nofun h

/-- An instruction has to say something, an id has to be one of a widget, and both have bounds. -/
theorem EditRequest.problems_eq_nil_iff {r : EditRequest} :
    r.problems = []
      ↔ (1 ≤ r.instruction.length ∧ r.instruction.length ≤ 4000) ∧ IsWidgetId r.widgetId := by
  rw [problems, List.append_eq_nil_iff, ← idProblem?_eq_none_iff]
  refine and_congr ?_ ?_
  · split
    · rename_i h
      exact iff_of_true rfl (by simpa using h)
    · rename_i h
      exact iff_of_false nofun (by simpa using h)
  · cases idProblem? r.widgetId <;> simp

/-! ## 4. Routes -/

theorem ofTarget_of_path {target : String} {route : Route} (h : targetPath target = route.path) :
    Route.ofTarget target = some route := by
  rw [Route.ofTarget, h]
  cases route <;> rfl

/-- A posted body is answered as its route says, with some headers added. -/
theorem exists_handle_of_route {route : Route} (hmethod : request.method = "POST")
    (hroute : Route.ofTarget request.target = some route) (hbody : route.takesBody = true) :
    ∃ headers, handle service cache model cors request st
      = ({ (post service cache model route request st).1 with headers := headers },
        (post service cache model route request st).2) := by
  have hserve : serve service cache model route request st
      = post service cache model route request st := by
    rw [serve, if_pos (by simp [hmethod, hbody])]
  rw [handle, if_neg (by simp [hmethod]), hroute]
  dsimp only
  rw [hserve]
  exact ⟨_, rfl⟩

/-- Behind the method and the path a request reaches the handler of its route, and only headers are
added to what that says. -/
theorem exists_handle_post {route : Route} (hmethod : request.method = "POST")
    (hpath : targetPath request.target = route.path) (hbody : route.takesBody = true) :
    ∃ headers, handle service cache model cors request st
      = ({ (post service cache model route request st).1 with headers := headers },
        (post service cache model route request st).2) :=
  exists_handle_of_route hmethod (ofTarget_of_path hpath) hbody

/-- What is added does not change the status. -/
theorem status_handle_post {route : Route} (hmethod : request.method = "POST")
    (hpath : targetPath request.target = route.path) (hbody : route.takesBody = true) :
    (handle service cache model cors request st).1.status
      = (post service cache model route request st).1.status := by
  obtain ⟨headers, h⟩ := exists_handle_post hmethod hpath hbody
  rw [h]

/-! ## 5. Whole sequences -/

variable (service cache cors)

/-- A request that is not answered with success makes no call, and the other requests of a sequence
are answered as they would be without it. -/
theorem outcomes_eraseIdx {xs : List Exchange} {i : Nat} {o : Outcome}
    (h : (outcomes service cache cors xs st)[i]? = some o) (hstatus : o.status ≠ 200) :
    o.calls = [] ∧ outcomes service cache cors (xs.eraseIdx i) st
      = (outcomes service cache cors xs st).eraseIdx i := by
  induction xs generalizing i st with
  | nil => cases h
  | cons x xs ih =>
    cases i with
    | zero =>
      obtain rfl := Option.some.inj h
      obtain ⟨hcalls, hstate⟩ := settled_handle.refused hstatus
      refine ⟨hcalls, ?_⟩
      rw [outcomes, List.eraseIdx_cons_zero, List.eraseIdx_cons_zero, hstate]
    | succ i =>
      obtain ⟨hcalls, hrest⟩ := ih h
      refine ⟨hcalls, ?_⟩
      rw [List.eraseIdx_cons_succ, outcomes, outcomes, List.eraseIdx_cons_succ, hrest]

/-- Every request of a sequence is answered with success or refused. -/
theorem status_of_mem_outcomes {xs : List Exchange} {o : Outcome}
    (h : o ∈ outcomes service cache cors xs st) : o.status = 200 ∨ o.status ∈ refusalStatuses := by
  induction xs generalizing st with
  | nil => cases h
  | cons x xs ih =>
    rcases List.mem_cons.1 h with rfl | h
    · exact settled_handle.status
    · exact ih h

/-- A request that is answered with a status from 400 to 499 makes no call to a model, and without
it all other requests of the sequence are answered the same. A body that is read for a new widget is
answered with 200 exactly if its prompt has at most 4000 characters, and one for an edit exactly if
its instruction has 1 to 4000 characters and its id may be one of a widget; otherwise with 422. -/
theorem refusals_without_effect :
    (∀ (xs : List Exchange) (st : ServiceState σ) (i : Nat) (o : Outcome),
      (outcomes service cache cors xs st)[i]? = some o → 400 ≤ o.status → o.status < 500 →
        o.calls = [] ∧ outcomes service cache cors (xs.eraseIdx i) st
          = (outcomes service cache cors xs st).eraseIdx i)
      ∧ ∀ (model : Model) (request : Request) (st : ServiceState σ), request.method = "POST" →
        (∀ r, targetPath request.target = "/api/generate-widget" →
          readBody GenerateRequest.record.decoder request = .ok r →
            let status := (handle service cache model cors request st).1.status
            (status = 200 ↔ r.prompt.length ≤ 4000) ∧ (status ≠ 200 → status = 422))
        ∧ ∀ r, targetPath request.target = "/api/edit-widget" →
          readBody EditRequest.record.decoder request = .ok r →
            let status := (handle service cache model cors request st).1.status
            (status = 200 ↔ (1 ≤ r.instruction.length ∧ r.instruction.length ≤ 4000)
              ∧ IsWidgetId r.widgetId) ∧ (status ≠ 200 → status = 422) := by
  refine ⟨fun xs st i o h hlow _ => ?_, fun model request st hmethod => ⟨?_, ?_⟩⟩
  · have hstatus : o.status ≠ 200 := by omega
    exact outcomes_eraseIdx service cache cors h hstatus
  · intro r hpath hread
    have hhandle : (handle service cache model cors request st).1.status
        = (post service cache model .generate request st).1.status :=
      status_handle_post hmethod hpath rfl
    have hjudged : Judged st r.problems (post service cache model .generate request st) :=
      judged_generate hread
    obtain ⟨haccepted, hrefused⟩ := hjudged.status
    dsimp only
    rw [hhandle, haccepted, GenerateRequest.problems_eq_nil_iff]
    exact ⟨Iff.rfl, fun h => hrefused fun hnil => h (haccepted.2 hnil)⟩
  · intro r hpath hread
    have hhandle : (handle service cache model cors request st).1.status
        = (post service cache model .edit request st).1.status :=
      status_handle_post hmethod hpath rfl
    have hjudged : Judged st r.problems (post service cache model .edit request st) :=
      judged_edit hread
    obtain ⟨haccepted, hrefused⟩ := hjudged.status
    dsimp only
    rw [hhandle, haccepted, EditRequest.problems_eq_nil_iff]
    exact ⟨Iff.rfl, fun h => hrefused fun hnil => h (haccepted.2 hnil)⟩

/-- A request that posts a document. -/
def posted (path : String) (v : Json.Value) : Request :=
  ⟨"POST", path, [("content-type", "application/json")], v.compact⟩

/-- A value that is posted in its compact form is read as it would be read directly. -/
theorem readBody_posted {α : Type} {read : Json.Decoder α} {v : Json.Value} {a : α}
    (hlegible : v.Legible) (hsize : v.compact.utf8ByteSize ≤ bodyLimit)
    (hread : read .text Json.deepest v.raw = .ok a) (path : String) :
    readBody read (posted path v) = .ok a := by
  have htype : isJsonType "application/json" = true := by decide +kernel
  have htext : read.ofText v.compact = .ok a := by
    rwa [Json.Decoder.ofText_eq_ok_iff (Json.ofText_compact hlegible)]
  have hfits : ¬bodyLimit < (posted path v).body.utf8ByteSize := Nat.not_lt.2 hsize
  rw [readBody, if_neg (by simp [posted, Headers.get?, htype]), if_neg hfits]
  dsimp only [posted]
  rw [htext, Json.mapError_ok]

/-- A prompt of letters with two bytes each. -/
def accents (n : Nat) : String := String.ofList (List.replicate n 'é')

/-- The document of a request with this prompt. -/
def accented (n : Nat) : Json.Value := .object [("prompt", .text (accents n))]

theorem utf8ByteSize_accents (n : Nat) : (accents n).utf8ByteSize = 2 * n := by
  induction n with
  | zero => rfl
  | succ n ih =>
    have hletter : (String.singleton 'é').utf8ByteSize = 2 := by decide
    rw [accents, List.replicate_succ, String.ofList_cons, String.utf8ByteSize_append, hletter,
      ← accents, ih]
    omega

/-- The body with a prompt of so many accented characters. -/
theorem compact_accented (n : Nat) :
    (accented n).compact = r#"{"prompt":""# ++ (accents n ++ r#""}"#) := by
  have hletter : Json.escaped 'é' = ['é'] := by decide
  have htext : Json.printText (accents n) = '"' :: List.replicate n 'é' ++ ['"'] := by
    rw [Json.printText, accents, String.toList_ofList, List.flatMap_replicate, hletter,
      List.flatten_replicate_singleton]
  have hkey : Json.printText "prompt" = "\"prompt\"".toList := by decide
  have hprint : (accented n).print
      = r#"{"prompt":""#.toList ++ (List.replicate n 'é' ++ r#""}"#.toList) := by
    rw [accented, Json.Value.print, Json.printMembers, hkey, Json.Value.print, htext]
    simp
  rw [Json.Value.compact, hprint, String.ofList_append, String.ofList_append, String.ofList_toList,
    String.ofList_toList, accents]

/-- An edit of a widget whose id has a letter that ids must not have. -/
def naiveEdit : Json.Value :=
  .object [("widget_id", .text "naïve"), ("edit_prompt", .text "bigger"),
    ("current_widget", .object [])]

/-- A prompt of so many accented characters is received; in bytes it is twice as long. -/
theorem readBody_accented {n : Nat} (h : n ≤ 4001) :
    readBody GenerateRequest.record.decoder (posted "/api/generate-widget" (accented n))
      = .ok ⟨accents n, none⟩ := by
  refine readBody_posted (by simp [accented, Json.Value.Legible, Json.Value.LegibleHere]) ?_ rfl _
  have hopen : (r#"{"prompt":""# : String).utf8ByteSize = 11 := by decide
  have hclose : (r#""}"# : String).utf8ByteSize = 2 := by decide
  rw [compact_accented, String.utf8ByteSize_append, String.utf8ByteSize_append,
    utf8ByteSize_accents, hopen, hclose, bodyLimit]
  omega

theorem readBody_naiveEdit : ∃ d,
    readBody EditRequest.record.decoder (posted "/api/edit-widget" naiveEdit)
      = .ok ⟨"naïve", "bigger", d⟩ := by
  have hlegible : naiveEdit.Legible := by
    simp [naiveEdit, Json.Value.Legible, Json.Value.LegibleHere]
  exact ⟨_, readBody_posted hlegible (by decide +kernel) rfl _⟩

/-- Prompts around the limit, which count by their letters, and an edit between them. -/
def aroundLimit : List Exchange :=
  [⟨posted "/api/generate-widget" (accented 4000), Service.absentModel⟩,
   ⟨posted "/api/generate-widget" (accented 4001), Service.absentModel⟩,
   ⟨posted "/api/edit-widget" naiveEdit, Service.absentModel⟩,
   ⟨posted "/api/generate-widget" (accented 4000), Service.overloadedModel⟩]

theorem refusals_without_effect_aroundLimit :
    let answers xs := outcomes Service.numberedService .inProcess .any xs ⟨[], 0, 0⟩
    (answers aroundLimit).map (·.status) = [200, 422, 422, 200]
      ∧ answers (aroundLimit.eraseIdx 1) = (answers aroundLimit).eraseIdx 1
      ∧ answers (aroundLimit.eraseIdx 2) = (answers aroundLimit).eraseIdx 2 := by
  obtain ⟨herase, hlimits⟩ := refusals_without_effect Service.numberedService .inProcess .any
  have hgenerate {n : Nat} (hn : n ≤ 4001) (model : Model) (st : ServiceState Cache.Table) :
      let status := (handle Service.numberedService .inProcess model .any
        (posted "/api/generate-widget" (accented n)) st).1.status
      (status = 200 ↔ n ≤ 4000) ∧ (status ≠ 200 → status = 422) := by
    have hpath : targetPath "/api/generate-widget" = "/api/generate-widget" := by decide +kernel
    have hlength : (accents n).length = n := by simp [accents]
    have hlimit := (hlimits model _ st rfl).1 _ hpath (readBody_accented hn)
    rwa [hlength] at hlimit
  have hedit (model : Model) (st : ServiceState Cache.Table) :
      (handle Service.numberedService .inProcess model .any
        (posted "/api/edit-widget" naiveEdit) st).1.status = 422 := by
    have hpath : targetPath "/api/edit-widget" = "/api/edit-widget" := by decide +kernel
    obtain ⟨d, hread⟩ := readBody_naiveEdit
    obtain ⟨haccepted, hrefused⟩ := (hlimits model _ st rfl).2 _ hpath hread
    refine hrefused fun hstatus => ?_
    have hletters : ∀ c ∈ "naïve".toList, _ := (haccepted.1 hstatus).2.2.2
    exact absurd (hletters 'ï' (by decide)) (by decide)
  have hshort (model : Model) (st : ServiceState Cache.Table) :
      (handle Service.numberedService .inProcess model .any
        (posted "/api/generate-widget" (accented 4000)) st).1.status = 200 :=
    (hgenerate (by omega) model st).1.2 (by omega)
  have hlong (model : Model) (st : ServiceState Cache.Table) :
      (handle Service.numberedService .inProcess model .any
        (posted "/api/generate-widget" (accented 4001)) st).1.status = 422 :=
    (hgenerate (by omega) model st).2 fun h =>
      absurd ((hgenerate (by omega) model st).1.1 h) (by omega)
  have hstatuses : (outcomes Service.numberedService .inProcess .any aroundLimit ⟨[], 0, 0⟩).map
      (·.status) = [200, 422, 422, 200] := by
    simp only [aroundLimit, outcomes, List.map_cons, List.map_nil, hshort, hlong, hedit]
  have hwithout (i : Nat) (hi : [200, 422, 422, 200][i]? = some 422) :
      outcomes Service.numberedService .inProcess .any (aroundLimit.eraseIdx i) ⟨[], 0, 0⟩
        = (outcomes Service.numberedService .inProcess .any aroundLimit ⟨[], 0, 0⟩).eraseIdx i := by
    rw [← hstatuses, List.getElem?_map, Option.map_eq_some_iff] at hi
    obtain ⟨o, ho, hstatus⟩ := hi
    exact (herase aroundLimit _ i o ho (by omega) (by omega)).2
  exact ⟨hstatuses, hwithout 1 rfl, hwithout 2 rfl⟩

/-- Neither generating nor editing can fail, whatever the cache holds, the model answers and the
descriptions repeat, and no request of a sequence is answered with a failure of the server. -/
theorem service_never_fails :
    (∀ (model : Model) (prompt : String) (st : ServiceState σ),
      ∃ r, (service.generate cache model prompt st).1.result = .ok r)
      ∧ (∀ (model : Model) (widgetId instruction : String) (current : Description)
        (st : ServiceState σ),
          ∃ r, (service.edit model widgetId instruction current st).1.result = .ok r)
      ∧ ∀ (xs : List Exchange) (st : ServiceState σ), ∀ o ∈ outcomes service cache cors xs st,
        o.status ≠ 500 ∧ (o.status = 200 ∨ o.status ∈ refusalStatuses) := by
  refine ⟨?_, ?_, ?_⟩
  · intro model prompt st
    exact service.exists_generate_result cache model prompt st
  · intro model widgetId instruction current st
    exact service.exists_edit_result model widgetId instruction current st
  · intro xs st o ho
    have hstatus := status_of_mem_outcomes service cache cors ho
    refine ⟨?_, hstatus⟩
    intro hserver
    rw [hserver] at hstatus
    simp [refusalStatuses] at hstatus

end Widgetry.Http
